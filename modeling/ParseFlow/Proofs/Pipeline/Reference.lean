import Mathlib.Data.List.Destutter
import ParseFlow.Pipeline.Transducer

/-!
# List functions of the operations

The function on lists that each operation computes, said with the functions of the library; it has no
value where an item expands to a sequence that never ends. Windows
are said by their places: they begin at the multiples of the step for as long as a full one fits,
and what is left where the next one would begin is the short one.
-/
namespace ParseFlow.Pipeline

variable {ω α β : Type}

/-! ## Windows -/

/-- The number of full windows over so many items. -/
def fullWindows (window : Window) (length : Nat) : Nat :=
  if length < window.size then 0 else (length - window.size) / window.step + 1

/-- The short window that is left over, if it is wanted and there is anything in it. -/
def shortWindow (window : Window) (left : List α) : List (List α) :=
  if window.remainder && !left.isEmpty then [left] else []

/-- The windows over a list. -/
def cut (window : Window) (items : List α) : List (List α) :=
  let full := fullWindows window items.length
  (List.range full).map (fun k => (items.drop (k * window.step)).take window.size) ++
    shortWindow window (items.drop (full * window.step))

section Windows

variable {window : Window} {items : List α}

theorem fullWindows_short {length : Nat} (h : length < window.size) :
    fullWindows window length = 0 := by
  rw [fullWindows, if_pos h]

/-- Each full window advances by the step. -/
theorem fullWindows_full (hs : 0 < window.size) (ht : 0 < window.step) {length : Nat}
    (h : window.size ≤ length) :
    fullWindows window length = fullWindows window (length - window.step) + 1 := by
  have hn : ¬ length < window.size := by omega
  rw [fullWindows, if_neg hn]
  by_cases hl : length - window.size < window.step
  · have hz : length - window.step < window.size := by omega
    rw [fullWindows_short hz, Nat.div_eq_of_lt hl]
  · have hz : ¬ length - window.step < window.size := by omega
    have hd : length - window.size = length - window.step - window.size + window.step := by omega
    rw [fullWindows, if_neg hz, hd, Nat.add_div_right _ ht]

theorem cut_short (h : items.length < window.size) :
    cut window items = shortWindow window items := by
  rw [cut, fullWindows_short h, Nat.zero_mul]
  rfl

theorem cut_full (hs : 0 < window.size) (ht : 0 < window.step) (h : window.size ≤ items.length) :
    cut window items = items.take window.size :: cut window (items.drop window.step) := by
  have hf := fullWindows_full hs ht h
  rw [← List.length_drop] at hf
  simp only [cut]
  generalize fullWindows window (items.drop window.step).length = full at hf ⊢
  have hlast : items.drop ((full + 1) * window.step) =
      (items.drop window.step).drop (full * window.step) := by
    rw [List.drop_drop, Nat.succ_mul, Nat.add_comm]
  have hdrop : ∀ k, items.drop ((k + 1) * window.step) =
      (items.drop window.step).drop (k * window.step) := by
    intro k
    rw [List.drop_drop, Nat.succ_mul, Nat.add_comm]
  rw [hf, List.range_succ_eq_map, List.map_cons, List.map_map, hdrop full]
  simp only [Function.comp_def, Nat.succ_eq_add_one, hdrop, Nat.zero_mul, List.drop_zero,
    List.cons_append]

theorem cut_nil (hs : 0 < window.size) : cut window ([] : List α) = [] := by
  have h : ([] : List α).length < window.size := hs
  rw [cut_short h, shortWindow]
  simp

end Windows

/-! ## Items compared with others -/

/-- The first of each run of equal items. -/
def firstOfRuns [DecidableEq α] : List α → List α
  | [] => []
  | x :: xs => x :: later x xs
where
  later (held : α) : List α → List α
    | [] => []
    | y :: ys => if held = y then later held ys else y :: later y ys

/-- The items not among those seen before. -/
def firstOccurrences [DecidableEq α] (seen : List α) : List α → List α
  | [] => []
  | x :: xs => if x ∈ seen then firstOccurrences seen xs else x :: firstOccurrences (x :: seen) xs

theorem later_eq_destutter' [DecidableEq α] (held : α) (items : List α) :
    held :: firstOfRuns.later held items = items.destutter' (· ≠ ·) held := by
  induction items generalizing held with
  | nil => rfl
  | cons y items ih =>
    by_cases h : held = y
    · rw [firstOfRuns.later, if_pos h, List.destutter'_cons_neg _ (not_not_intro h), ih]
    · rw [firstOfRuns.later, if_neg h, List.destutter'_cons_pos _ h, ih]

theorem firstOfRuns_eq_destutter [DecidableEq α] (items : List α) :
    firstOfRuns items = items.destutter (· ≠ ·) := by
  cases items with
  | nil => rfl
  | cons x items => exact later_eq_destutter' x items

theorem firstOccurrences_eq_eraseDups [DecidableEq α] (seen items : List α) :
    firstOccurrences seen items = (items.filter (· ∉ seen)).eraseDups := by
  induction items generalizing seen with
  | nil => rfl
  | cons x items ih =>
    by_cases h : x ∈ seen
    · rw [firstOccurrences, if_pos h, ih, List.filter_cons_of_neg (by simpa using h)]
    · rw [firstOccurrences, if_neg h, ih, List.filter_cons_of_pos (by simpa using h),
        List.eraseDups_cons, List.filter_filter]
      congr 2
      apply List.filter_congr
      intro y _
      simp [Bool.beq_eq_decide_eq]

/-! ## Items put together with others -/

/-- The running accumulations after the seed. -/
def accumulations (f : β → α → β) (acc : β) : List α → List β
  | [] => []
  | x :: xs => f acc x :: accumulations f (f acc x) xs

/-- Pairs with the indexes from `i` on. -/
def numberFrom (i : Nat) : List α → List (Nat × α)
  | [] => []
  | x :: xs => (i, x) :: numberFrom (i + 1) xs

theorem accumulations_eq_scanl (f : β → α → β) (acc : β) (items : List α) :
    acc :: accumulations f acc items = items.scanl f acc := by
  induction items generalizing acc with
  | nil => rw [List.scanl_nil]; rfl
  | cons x items ih => rw [List.scanl_cons, ← ih]; rfl

theorem numberFrom_eq_zip (i : Nat) (items : List α) :
    numberFrom i items = (List.range' i items.length).zip items := by
  induction items generalizing i with
  | nil => rfl
  | cons x items ih =>
    rw [numberFrom, ih, List.length_cons, List.range'_succ, List.zip_cons_cons]

/-- The members of a sequence at the given indexes, as far as it reaches. -/
def Sequence.members (sequence : Sequence β) (indexes : List Nat) : List β :=
  indexes.filterMap sequence.get

theorem Sequence.members_of_ended {sequence : Sequence β} {i : Nat} (h : sequence.get i = none)
    (count : Nat) : sequence.members (List.range' i count) = [] := by
  induction count generalizing i with
  | zero => rfl
  | succ count ih =>
    rw [List.range'_succ, members, List.filterMap_cons_none h]
    exact ih (sequence.stays_ended i h)

/-- Pairs with the members of a sequence from index `i` on, as far as both reach. -/
def pairUp (partner : Sequence β) (i : Nat) : List α → List (α × β)
  | [] => []
  | x :: xs =>
    match partner.get i with
    | some y => (x, y) :: pairUp partner (i + 1) xs
    | none => []

theorem pairUp_eq_zip (partner : Sequence β) (i : Nat) (items : List α) :
    pairUp partner i items = items.zip (partner.members (List.range' i items.length)) := by
  induction items generalizing i with
  | nil => rfl
  | cons x items ih =>
    cases h : partner.get i with
    | none =>
      rw [Sequence.members_of_ended h, List.zip_nil_right, pairUp, h]
    | some y =>
      have hm : partner.members (List.range' i (items.length + 1)) =
          y :: partner.members (List.range' (i + 1) items.length) := by
        rw [List.range'_succ, Sequence.members, List.filterMap_cons_some h]
        rfl
      rw [pairUp, h, List.length_cons, hm, List.zip_cons_cons, ← ih]

/-! ## Operations -/

/-- The function on lists that the operation stands for. There is no list where an item expands
without end. -/
def Op.reference : Op ω α β → List α → Option (List β)
  | map _ f, items => some (items.map f)
  | filter _ keep, items => some (items.filter keep)
  | flatMap _ f, items => (items.mapM fun x => (f x).list?).map List.flatten
  | take count, items => some (items.take count)
  | drop count, items => some (items.drop count)
  | takeWhile _ keep, items => some (items.takeWhile keep)
  | dropWhile _ skip, items => some (items.dropWhile skip)
  | windowed window _ _, items => some (cut window items)
  | dedupe, items => some (items.destutter (· ≠ ·))
  | unique, items => some items.eraseDups
  | sort order, items => some (items.mergeSort fun a b => order a b != .gt)
  | sortBy _ order, items => some (items.mergeSort fun a b => order a b != .gt)
  | scan _ f seed _, items => some (items.scanl f seed)
  | reduce _ f seed _, items => some [items.foldl f seed]
  | zip partner _, items => some (items.zip (partner.members (List.range items.length)))
  | enumerate, items => some ((List.range items.length).zip items)
  | inspect _ _, items => some items

/-- Every item that the operation is given expands to a list. -/
def Op.FiniteBursts : Op ω α β → Prop
  | flatMap _ f => ∀ x, ∃ ys, f x = .listed ys
  | _ => True

theorem reference_flatMap {label : Label} {f : α → Items β} {g : α → List β}
    (h : ∀ x, f x = .listed (g x)) (items : List α) :
    (Op.flatMap label f : Op ω α β).reference items = some (items.flatMap g) := by
  have hf : (fun x => (f x).list?) = fun x => some (g x) := funext fun x => by rw [h]; rfl
  have hm : items.mapM (fun x => some (g x)) = some (items.map g) := List.mapM_pure
  rw [Op.reference, hf, hm]
  rfl

theorem Op.FiniteBursts.exists_reference {op : Op ω α β} (h : op.FiniteBursts) (items : List α) :
    ∃ ys, op.reference items = some ys := by
  cases op with
  | flatMap label f =>
    choose g hg using h
    exact ⟨_, reference_flatMap hg items⟩
  | _ => exact ⟨_, rfl⟩

end ParseFlow.Pipeline
