import ParseFlow.Proofs.Pipeline.Collecting
import ParseFlow.Proofs.Pipeline.Reference

/-!
# Machines of the operations

Each machine puts out, item by item, what its operation makes of the whole list. For every state in
which a machine asks it is said what it makes of the items that are left: with a counter, a flag, the
items seen, the items held back, or the windows over the buffer and what is to come. An item that
expands without end is gone through for ever, and nothing is collected.
-/
namespace ParseFlow.Pipeline

open Machine

variable {ω α β σ : Type}

/-! ## Turns -/

section Turns

variable {live : σ → Prop} {made : σ → List α → List β} {items : List α}

theorem makes_answerThenAsk (y : β) {s : σ} (h : live s) :
    (answerThenAsk y s : Turn ω β σ).Makes live made items (y :: made s items) :=
  ⟨.inr ⟨s, rfl, h⟩, rfl⟩

theorem makes_askOn {s : σ} (h : live s) :
    (askOn s : Turn ω β σ).Makes live made items (made s items) :=
  ⟨.inr ⟨s, rfl, h⟩, rfl⟩

theorem finishes_lastly (items : List β) : (lastly items : Turn ω β σ).Finishes items := by
  constructor
  · exact List.mem_append_right _ (List.mem_singleton_self _)
  · rw [lastly, passing_append, passing_answers]
    exact List.append_nil items

theorem finishes_endThenAsk (s : σ) : (endThenAsk s : Turn ω β σ).Finishes [] :=
  ⟨List.mem_singleton_self _, rfl⟩

theorem makes_ite {p : Prop} [Decidable p] {turn other : Turn ω β σ} {result : List β}
    (ht : p → turn.Makes live made items result) (ho : ¬ p → other.Makes live made items result) :
    (if p then turn else other).Makes live made items result :=
  iteInduction (motive := Turn.Makes live made items result) ht ho

/-- A turn that finishes makes the same of any items that are left. -/
theorem makes_of_finishes {turn : Turn ω β σ} {result : List β} (h : turn.Finishes result) :
    turn.Makes live made items result := by
  obtain ⟨hends, rfl⟩ := h
  exact ⟨.inl hends, passing_of_ends hends _ _⟩

end Turns

/-- A machine that makes `made` of the items that are left. -/
theorem realises_of_makes {m : Machine ω α β} (live : m.State → Prop)
    (made : m.State → List α → List β) {f : List α → List β}
    (hstart : ∀ items, m.start.Makes live made items (f items))
    (hsome : ∀ s x items, live s → (m.feed s (some x)).Makes live made items (made s (x :: items)))
    (hnone : ∀ s, live s → (m.feed s none).Finishes (made s [])) : m.Realises f :=
  Follows.realises ⟨hstart, hsome, hnone⟩

theorem realises_steady {feed : σ → Option α → Turn ω β σ} (live : σ → Prop)
    (made : σ → List α → List β) {initial : σ} (hi : live initial)
    (hsome : ∀ s x items, live s → (feed s (some x)).Makes live made items (made s (x :: items)))
    (hnone : ∀ s, live s → (feed s none).Finishes (made s [])) :
    (steady initial feed).Realises (made initial) :=
  realises_of_makes (m := steady initial feed) live made
    (fun _ => ⟨.inr ⟨initial, rfl, hi⟩, rfl⟩) hsome hnone

theorem realises_pass : (Machine.pass : Machine ω α α).Realises id := by
  refine realises_of_makes (fun _ => True) (fun _ items => items) ?_ ?_ ?_
  · intro items
    exact ⟨.inr ⟨(), rfl, trivial⟩, rfl⟩
  · intro s x items _
    exact ⟨.inr ⟨(), rfl, trivial⟩, rfl⟩
  · intro s _
    exact finishes_endThenAsk s

/-! ## Operations that look at one item at a time -/

theorem realises_map (label : Label) (f : α → β) :
    (Op.map label f : Op ω α β).machine.Realises (List.map f) := by
  refine realises_steady (fun _ => True) (fun _ => List.map f) trivial ?_ ?_
  · intro s x items _
    exact makes_answerThenAsk (f x) trivial
  · intro s _
    exact finishes_endThenAsk s

theorem realises_filter (label : Label) (keep : α → Bool) :
    (Op.filter label keep : Op ω α α).machine.Realises (List.filter keep) := by
  refine realises_steady (fun _ => True) (fun _ => List.filter keep) trivial ?_ ?_
  · intro s x items _
    refine makes_ite (fun h => ?_) (fun h => ?_)
    · rw [List.filter_cons_of_pos h]
      exact makes_answerThenAsk x trivial
    · rw [List.filter_cons_of_neg h]
      exact makes_askOn trivial
  · intro s _
    exact finishes_endThenAsk s

theorem realises_inspect (label : Label) (observe : α → ω) :
    (Op.inspect label observe).machine.Realises id := by
  refine realises_steady (fun _ => True) (fun _ => id) trivial ?_ ?_
  · intro s x items _
    exact ⟨.inr ⟨(), rfl, trivial⟩, rfl⟩
  · intro s _
    exact finishes_endThenAsk s

/-! ## Operations that count or keep a flag -/

theorem realises_take (count : Nat) :
    (Op.take count : Op ω α α).machine.Realises (List.take count) := by
  refine realises_of_makes (fun left : Nat => 0 < left) (fun left : Nat => List.take left)
    ?_ ?_ ?_
  · intro items
    refine makes_ite (fun h => ?_) (fun h => ?_)
    · rw [h]
      exact makes_of_finishes ⟨by simp [Ends], rfl⟩
    · exact ⟨.inr ⟨count, rfl, Nat.pos_of_ne_zero h⟩, rfl⟩
  · intro (left : Nat) x items (hleft : 0 < left)
    show Turn.Makes _ _ _ _ (if left ≤ 1 then lastly [x] else answerThenAsk x (left - 1))
    refine makes_ite (fun h => ?_) (fun h => ?_)
    · obtain rfl : left = 1 := by omega
      exact makes_of_finishes (finishes_lastly [x])
    · obtain ⟨n, rfl⟩ : ∃ n, left = n + 2 := ⟨left - 2, by omega⟩
      exact makes_answerThenAsk x (Nat.succ_pos n)
  · intro (left : Nat) _
    have hnil : List.take left ([] : List α) = [] := List.take_nil
    show Turn.Finishes (List.take left []) (if left ≤ 1 then lastly [] else endThenAsk (left - 1))
    rw [hnil]
    by_cases h : left ≤ 1
    · rw [if_pos h]
      exact finishes_lastly []
    · rw [if_neg h]
      exact finishes_endThenAsk (left - 1)

theorem realises_drop (count : Nat) :
    (Op.drop count : Op ω α α).machine.Realises (List.drop count) := by
  refine realises_steady (fun _ => True) (fun left => List.drop left) trivial ?_ ?_
  · intro left x items _
    cases left with
    | zero => exact makes_answerThenAsk x trivial
    | succ left => exact makes_askOn trivial
  · intro left _
    rw [List.drop_nil]
    cases left with
    | zero => exact finishes_endThenAsk 0
    | succ left => exact finishes_endThenAsk 0

theorem realises_takeWhile (label : Label) (keep : α → Bool) :
    (Op.takeWhile label keep : Op ω α α).machine.Realises (List.takeWhile keep) := by
  refine realises_steady (fun _ => True) (fun _ => List.takeWhile keep) trivial ?_ ?_
  · intro s x items _
    refine makes_ite (fun h => ?_) (fun h => ?_)
    · rw [List.takeWhile_cons_of_pos h]
      exact makes_answerThenAsk x trivial
    · rw [List.takeWhile_cons_of_neg h]
      exact makes_of_finishes (finishes_lastly [])
  · intro s _
    exact finishes_endThenAsk s

theorem realises_dropWhile (label : Label) (skip : α → Bool) :
    (Op.dropWhile label skip : Op ω α α).machine.Realises (List.dropWhile skip) := by
  refine realises_steady (fun _ => True)
    (fun (skipping : Bool) items => if skipping then items.dropWhile skip else items) trivial ?_ ?_
  · intro (skipping : Bool) x items _
    show Turn.Makes _ _ _ _ (if skipping && skip x then askOn true else answerThenAsk x false)
    refine makes_ite (fun h => ?_) (fun h => ?_)
    · obtain ⟨rfl, hx⟩ := Bool.and_eq_true_iff.mp h
      rw [if_pos rfl, List.dropWhile_cons_of_pos hx]
      exact makes_askOn trivial
    · cases skipping with
      | false => exact makes_answerThenAsk x trivial
      | true =>
        have hx : ¬ skip x = true := h
        rw [if_pos rfl, List.dropWhile_cons_of_neg hx]
        exact makes_answerThenAsk x trivial
  · intro skipping _
    cases skipping with
    | false => exact finishes_endThenAsk false
    | true => exact finishes_endThenAsk true

theorem realises_enumerate :
    (Op.enumerate : Op ω α (Nat × α)).machine.Realises (numberFrom 0) := by
  refine realises_steady (fun _ => True) (fun i => numberFrom i) trivial ?_ ?_
  · intro i x items _
    exact makes_answerThenAsk (i, x) trivial
  · intro i _
    exact finishes_endThenAsk i

theorem realises_zip (partner : Sequence β) (text : String) :
    (Op.zip partner text : Op ω α (α × β)).machine.Realises (pairUp partner 0) := by
  refine realises_steady (fun _ => True) (fun i => pairUp partner i) trivial ?_ ?_
  · intro i x items _
    cases h : partner.get i with
    | none =>
      simp only [pairUp, h]
      exact makes_of_finishes (finishes_endThenAsk i)
    | some y =>
      simp only [pairUp, h]
      exact makes_answerThenAsk (x, y) trivial
  · intro i _
    exact finishes_endThenAsk i

/-! ## Operations that keep what they have seen -/

theorem realises_unique [DecidableEq α] :
    (Op.unique : Op ω α α).machine.Realises (firstOccurrences []) := by
  refine realises_steady (fun _ => True) (fun seen => firstOccurrences seen) trivial ?_ ?_
  · intro seen x items _
    refine makes_ite (fun h => ?_) (fun h => ?_)
    · rw [firstOccurrences, if_pos h]
      exact makes_askOn trivial
    · rw [firstOccurrences, if_neg h]
      exact makes_answerThenAsk x trivial
  · intro seen _
    exact finishes_endThenAsk seen

/-- A machine that holds all items back until the end. -/
theorem realises_held (made : List α → List β) :
    (steady ([] : List α) fun
      | held, some x => askOn (x :: held)
      | held, none => lastly (made held.reverse) : Machine ω α β).Realises made := by
  refine realises_steady (fun _ => True) (fun (held : List α) items => made (held.reverse ++ items))
    trivial ?_ ?_
  · intro held x items _
    rw [List.append_cons, ← List.reverse_cons]
    exact makes_askOn trivial
  · intro held _
    rw [List.append_nil]
    exact finishes_lastly _

theorem realises_scan (label : Label) (f : β → α → β) (seed : β) (text : String) :
    (Op.scan label f seed text : Op ω α β).machine.Realises
      fun items => seed :: accumulations f seed items := by
  refine realises_of_makes (fun _ => True) (fun acc : β => accumulations f acc) ?_ ?_ ?_
  · intro items
    exact ⟨.inr ⟨seed, rfl, trivial⟩, rfl⟩
  · intro acc x items _
    exact makes_answerThenAsk (f acc x) trivial
  · intro acc _
    exact finishes_endThenAsk acc

theorem realises_reduce (label : Label) (f : β → α → β) (seed : β) (text : String) :
    (Op.reduce label f seed text : Op ω α β).machine.Realises
      fun items => [items.foldl f seed] := by
  refine realises_steady (fun _ => True) (fun acc items => [items.foldl f acc]) trivial ?_ ?_
  · intro acc x items _
    exact makes_askOn trivial
  · intro acc _
    exact finishes_lastly [acc]

theorem realises_dedupe [DecidableEq α] :
    (Op.dedupe : Op ω α α).machine.Realises firstOfRuns := by
  let made : Option α → List α → List α
    | none, items => firstOfRuns items
    | some held, items => held :: firstOfRuns.later held items
  have h : (Op.dedupe : Op ω α α).machine.Follows (fun _ => True) made firstOfRuns := by
    refine ⟨fun items => ⟨.inr ⟨none, rfl, trivial⟩, rfl⟩, ?_, ?_⟩
    · intro (held : Option α) x items _
      cases held with
      | none => exact ⟨.inr ⟨some x, rfl, trivial⟩, rfl⟩
      | some held =>
        refine makes_ite (fun h => ?_) (fun h => ?_)
        · have he : made (some held) (x :: items) = made (some held) items := by
            simp only [made, firstOfRuns.later, if_pos h]
          rw [he]
          exact makes_askOn trivial
        · have he : made (some held) (x :: items) = held :: made (some x) items := by
            simp only [made, firstOfRuns.later, if_neg h]
          rw [he]
          exact makes_answerThenAsk held trivial
    · intro (held : Option α) _
      cases held with
      | none => exact ⟨by simp [Ends, Op.machine], rfl⟩
      | some held => exact finishes_lastly [held]
  exact h.realises

/-! ## Windows -/

namespace WindowState

/-- A buffer never holds a full window, and a finished window waits for items to be skipped. -/
def Live (window : Window) : WindowState α → Prop
  | .filling buffer => buffer.length < window.size
  | .skipping _ left => 0 < left

/-- What is made of the items that are left. -/
def made (window : Window) : WindowState α → List α → List (List α)
  | .filling buffer, items => cut window (buffer ++ items)
  | .skipping finished left, items => finished :: cut window (items.drop left)

end WindowState

section Windows

variable {window : Window} (hs : 0 < window.size) (ht : 0 < window.step)

include hs ht

theorem feedWindow_filling {buffer : List α} (hb : buffer.length < window.size) (x : α)
    (items : List α) :
    (feedWindow window (.filling buffer) (some x) : Turn ω _ _).Makes (WindowState.Live window)
      (WindowState.made window) items (WindowState.made window (.filling buffer) (x :: items)) := by
  have hcut : WindowState.made window (.filling buffer) (x :: items) =
      cut window (buffer ++ [x] ++ items) := by
    rw [List.append_assoc]
    rfl
  rw [hcut]
  refine makes_ite (fun h => ?_) (fun h => ?_)
  · exact makes_askOn h
  have hlen : (buffer ++ [x]).length = window.size := by
    rw [List.length_append, List.length_singleton] at h ⊢
    omega
  have hall : window.size ≤ (buffer ++ [x] ++ items).length := by
    rw [List.length_append]
    omega
  rw [cut_full hs ht hall, List.take_left' hlen]
  refine makes_ite (fun hstep => ?_) (fun hstep => ?_)
  · have hlive : ((buffer ++ [x]).drop window.step).length < window.size := by
      rw [List.length_drop]
      omega
    rw [List.drop_append_of_le_length (by omega)]
    exact makes_answerThenAsk (buffer ++ [x]) hlive
  · have hdrop : (buffer ++ [x] ++ items).drop window.step =
        items.drop (window.step - window.size) := by
      rw [List.drop_append, List.drop_eq_nil_of_le (by omega), hlen]
      rfl
    have hlive : 0 < window.step - window.size := by omega
    rw [hdrop]
    exact makes_askOn hlive

omit ht in
theorem feedWindow_skipping {finished : List α} {left : Nat} (hl : 0 < left) (x : α)
    (items : List α) :
    (feedWindow window (.skipping finished left) (some x) : Turn ω _ _).Makes
      (WindowState.Live window) (WindowState.made window) items
      (WindowState.made window (.skipping finished left) (x :: items)) := by
  obtain ⟨n, rfl⟩ : ∃ n, left = n + 1 := ⟨left - 1, by omega⟩
  have hmade : WindowState.made window (.skipping finished (n + 1)) (x :: items) =
      finished :: cut window (items.drop n) := rfl
  rw [hmade]
  refine makes_ite (fun h => ?_) (fun h => ?_)
  · obtain rfl : n = 0 := by omega
    exact makes_answerThenAsk finished hs
  · have hlive : 0 < n := by omega
    exact makes_askOn hlive

omit ht in
theorem feedWindow_none {s : WindowState α} (h : s.Live window) :
    (feedWindow window s none : Turn ω _ _).Finishes (s.made window []) := by
  cases s with
  | filling buffer =>
    have hmade : WindowState.made window (.filling buffer) [] = shortWindow window buffer := by
      rw [WindowState.made, List.append_nil, cut_short h]
    rw [hmade]
    exact finishes_lastly _
  | skipping finished left =>
    have hmade : WindowState.made window (.skipping finished left) [] = [finished] := by
      rw [WindowState.made, List.drop_nil, cut_nil hs]
    rw [hmade]
    exact finishes_lastly [finished]

theorem realises_windowed :
    (Op.windowed window hs ht : Op ω α (List α)).machine.Realises (cut window) := by
  refine realises_steady (WindowState.Live window) (WindowState.made window) hs ?_ ?_
  · intro s x items h
    cases s with
    | filling buffer => exact feedWindow_filling hs ht h x items
    | skipping finished left => exact feedWindow_skipping hs h x items
  · intro s h
    exact feedWindow_none hs h

end Windows

/-! ## Expansions -/

section FlatMap

variable (f : α → Items β)

/-- The machine of the operation, with its states in sight. -/
abbrev flatMapMachine : Machine ω α β where
  State := Option (Nat → β)
  start := ⟨[.ready], .ask none⟩
  feed := feedFlatMap f

section Feed

variable {f} {x : α}

theorem feedFlatMap_listed {ys : List β} (h : f x = .listed ys) :
    (feedFlatMap f none (some x) : Turn ω β _) =
      ⟨ys.map fun y => .answer (some y), .ask none⟩ := by
  simp only [feedFlatMap, h]

theorem feedFlatMap_endless {y : Nat → β} (h : f x = .endless y) :
    (feedFlatMap f none (some x) : Turn ω β _) = ⟨[], .idle (some y)⟩ := by
  simp only [feedFlatMap, h]

end Feed

/-- There is no end to going through an expansion that has none. -/
theorem collectFrom_flatMap_endless (y : Nat → β) (input : Items α) :
    (flatMapMachine f : Machine ω α β).collectFrom ⟨[], .idle (some y)⟩ input = none := by
  have hnever : ∀ (turn : Turn ω β (flatMapMachine f : Machine ω α β).State) input ys,
      (flatMapMachine f).Collects turn input ys → ¬ Ends turn.events →
      ∀ y, turn.next ≠ .idle (some y) := by
    intro turn input ys h
    induction h with
    | ends he => exact fun hne => absurd he hne
    | @later turn input ys _ ih =>
      intro _ y hy
      rw [hy] at ih
      exact ih (by simp [pull, Next.asks, goOn, feedFlatMap, Ends]) _ rfl
  refine Option.eq_none_iff_forall_ne_some.mpr fun ys h => ?_
  exact hnever _ _ _ (collectFrom_eq_some_iff.mp h) List.not_mem_nil y rfl

theorem collectFrom_flatMap (items : List α) :
    (flatMapMachine f : Machine ω α β).collectFrom ⟨[], .ask none⟩ (.listed items) =
      (items.mapM fun x => (f x).list?).map List.flatten := by
  induction items with
  | nil =>
    refine (collectFrom_ask_nil _ _).trans ?_
    exact collectFrom_of_ends _ (finishes_lastly ([] : List β)).1 _
  | cons x items ih =>
    rw [collectFrom_ask_cons, List.mapM_cons]
    cases hx : f x with
    | listed ys =>
      rw [show (flatMapMachine f : Machine ω α β).feed none (some x) = _ from feedFlatMap_listed hx,
        collectFrom_split, ih, passed_answers]
      cases items.mapM fun x => (f x).list? with
      | none => rfl
      | some zs => rfl
    | endless y =>
      rw [show (flatMapMachine f : Machine ω α β).feed none (some x) = _ from
        feedFlatMap_endless hx, collectFrom_flatMap_endless]
      rfl

theorem collect_flatMap (label : Label) (items : List α) :
    (Transducer.op (.flatMap label f) : Transducer ω α β).collect items =
      (Op.flatMap label f : Op ω α β).reference items := by
  refine ((flatMapMachine f).collectFrom_behind [.ready] ⟨[], .ask none⟩ (.listed items)).trans ?_
  rw [passed_of_not_ends (by simp [Ends]), collectFrom_flatMap]
  exact Option.map_id'

end FlatMap

/-! ## All operations -/

/-- The machine of an operation puts out what the operation stands for. -/
theorem Op.collect_eq (op : Op ω α β) (items : List α) :
    (Transducer.op op).collect items = op.reference items := by
  cases op with
  | map label f => exact realises_map label f items
  | filter label keep => exact realises_filter label keep items
  | flatMap label f => exact collect_flatMap f label items
  | take count => exact realises_take count items
  | drop count => exact realises_drop count items
  | takeWhile label keep => exact realises_takeWhile label keep items
  | dropWhile label skip => exact realises_dropWhile label skip items
  | windowed window hs ht => exact realises_windowed hs ht items
  | dedupe => exact (realises_dedupe items).trans (congrArg some (firstOfRuns_eq_destutter items))
  | unique =>
    refine (realises_unique items).trans (congrArg some ?_)
    refine (firstOccurrences_eq_eraseDups [] items).trans ?_
    congr 1
    exact List.filter_eq_self.mpr (by simp)
  | sort order => exact realises_held (stableSort order) items
  | sortBy label order => exact realises_held (stableSort order) items
  | scan label f seed text =>
    exact (realises_scan label f seed text items).trans
      (congrArg some (accumulations_eq_scanl f seed items))
  | reduce label f seed text => exact realises_reduce label f seed text items
  | zip partner text =>
    rw [Op.reference, List.range_eq_range', ← pairUp_eq_zip]
    exact realises_zip partner text items
  | enumerate =>
    rw [Op.reference, List.range_eq_range', ← numberFrom_eq_zip]
    exact realises_enumerate items
  | inspect label observe => exact realises_inspect label observe items

end ParseFlow.Pipeline
