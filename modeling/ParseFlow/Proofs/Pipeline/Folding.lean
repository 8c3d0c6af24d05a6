import ParseFlow.Proofs.Pipeline.SingleValue
import ParseFlow.Proofs.Pipeline.Windows

/-!
# Folds

A machine that scans and one that reduces carry the same accumulation from item to item. The one
puts it out after each item, and before the first; the other keeps it to the end of the input. So
what is scanned from some items is what each of their beginnings is reduced to, and the two differ
in when they read: the outputs of a scan stand between its reads, and a reduction reads everything
for its only output.
-/
namespace ParseFlow.Pipeline

variable {ω α β : Type}

/-- The machine that scans, with its states in sight. -/
abbrev scanMachine (f : β → α → β) (seed : β) : Machine ω α β where
  State := β
  start := ⟨[.ready, .answer (some seed)], .ask seed⟩
  feed
    | acc, some x => answerThenAsk (f acc x) (f acc x)
    | acc, none => endThenAsk acc

/-- The machine that reduces, with its states in sight. -/
abbrev reduceMachine (f : β → α → β) (seed : β) : Machine ω α β where
  State := β
  start := ⟨[.ready], .ask seed⟩
  feed
    | acc, some x => askOn (f acc x)
    | acc, none => lastly [acc]

section Runs

variable (f : β → α → β) (seed acc : β)

/-- Each read is followed by the next output. -/
theorem receives_scanMachine {k : Nat} {items : List α} (hk : k < items.length) :
    Receives ((scanMachine f seed : Machine ω α β).story ⟨[], .ask acc⟩ items) (k + 1) (k + 1) := by
  induction items generalizing acc k with
  | nil => exact absurd hk (Nat.not_lt_zero k)
  | cons x items ih =>
    rw [Machine.story_answerThenAsk rfl]
    cases k with
    | zero => exact .read x (.here _ _)
    | succ k => exact .read x (.output _ (ih (f acc x) (Nat.lt_of_succ_lt_succ hk)))

theorem ended_mem_scanMachine (items : List α) :
    .ended ∈ (scanMachine f seed : Machine ω α β).story ⟨[], .ask acc⟩ items := by
  induction items generalizing acc with
  | nil => exact List.mem_singleton_self _
  | cons x items ih =>
    rw [Machine.story_answerThenAsk rfl]
    exact List.mem_cons_of_mem _ (List.mem_cons_of_mem _ (ih (f acc x)))

/-- All items are read before the only output. -/
theorem story_reduceMachine (items : List α) :
    (reduceMachine f seed : Machine ω α β).story ⟨[], .ask acc⟩ items =
      items.map .read ++ [.output (items.foldl f acc), .ended] := by
  induction items generalizing acc with
  | nil => rfl
  | cons x items ih =>
    rw [Machine.story_askOn rfl, ih, List.map_cons, List.cons_append, List.foldl_cons]

end Runs

/-! ## The operations -/

namespace Transducer

open Text

variable [Rendered β] (label : String) (f : β → α → β) (seed : β) (items : List α)

theorem collect_scan :
    (scan label f seed : Transducer ω α β).collect items = some (items.scanl f seed) :=
  Op.collect_eq (.scan ⟨label⟩ f seed (render seed)) items

theorem collect_reduce :
    (reduce label f seed : Transducer ω α β).collect items = some [items.foldl f seed] :=
  Op.collect_eq (.reduce ⟨label⟩ f seed (render seed)) items

theorem story_scan : (scan label f seed : Transducer ω α β).story items =
    .applied :: .output seed :: (scanMachine f seed).story ⟨[], .ask seed⟩ items := by
  cases items <;> rfl

theorem story_reduce : (reduce label f seed : Transducer ω α β).story items =
    .applied :: (items.map .read ++ [.output (items.foldl f seed), .ended]) := by
  have hstart : (reduce label f seed : Transducer ω α β).story items =
      .applied :: (reduceMachine f seed).story ⟨[], .ask seed⟩ items := by cases items <;> rfl
  rw [hstart, story_reduceMachine]

theorem receives_scan {k : Nat} (hk : k ≤ items.length) :
    Receives ((scan label f seed : Transducer ω α β).story items) (k + 1) k := by
  rw [story_scan]
  cases k with
  | zero => exact .applied (.here seed _)
  | succ k => exact .applied (.output seed (receives_scanMachine f seed seed hk))

theorem outputs_story_scan :
    outputs ((scan label f seed : Transducer ω α β).story items) = items.scanl f seed := by
  refine outputs_story (collect_scan label f seed items) ?_
  rw [story_scan]
  exact List.mem_cons_of_mem _ (List.mem_cons_of_mem _ (ended_mem_scanMachine f seed seed items))

/-- A scan puts out the seed and then, with each item it reads, what it has read so far is reduced
to; a reduction puts out one item, when it has read them all. To a single value either comes to one
step from the seed. -/
theorem scan_outputs_reductions :
    let scanned : Transducer ω α β := scan label f seed
    let reduced : Transducer ω α β := reduce label f seed
    (∃ outs, scanned.collect items = some outs ∧ outs.length = items.length + 1 ∧
      ∀ k, k ≤ items.length →
        let folded := (items.take k).foldl f seed
        reduced.collect (items.take k) = some [folded] ∧ outs[k]? = some folded ∧
        ∃ front, seen (k + 1) (scanned.story items) = front ++ [.output folded] ∧
          (outputs front).length = k ∧ reads front = k) ∧
    seen 1 (scanned.story items) = [.applied, .output seed] ∧
    seen 0 (reduced.story items) = [.applied] ∧
    seen 1 (reduced.story items) =
      .applied :: items.map .read ++ [.output (items.foldl f seed)] ∧
    ∀ v, scanned.applyValue v = some (.ok (f seed v)) ∧
      reduced.applyValue v = some (.ok (f seed v)) := by
  intro scanned reduced
  refine ⟨⟨_, collect_scan label f seed items, List.length_scanl, fun k hk => ?_⟩, ?_, ?_, ?_,
    fun v => ?_⟩
  · have hout : (items.scanl f seed)[k]? = some ((items.take k).foldl f seed) := by
      rw [List.getElem?_scanl, if_pos hk]
    have hstory := outputs_story_scan (ω := ω) label f seed items
    exact ⟨collect_reduce label f seed _, hout,
      (receives_scan label f seed items hk).seen_output (hstory.symm ▸ hout)⟩
  · rw [story_scan]
    rfl
  · rw [story_reduce]
    rfl
  · rw [story_reduce]
    show .applied :: seen 1 _ = _
    rw [seen_reads]
    rfl
  · exact ⟨applyOp_of_getLast rfl rfl, applyOp_of_getLast rfl rfl⟩

/-- The third output of a scan that subtracts is there before the third item is read. -/
theorem scan_outputs_reductions_difference :
    let scanned : Transducer Unit Int Int := scan "difference" (· - ·) 10
    2 ≤ [1, 2, 3].length ∧
      ∃ front, seen 3 (scanned.story [1, 2, 3]) = front ++ [.output 7] ∧ reads front = 2 := by
  intro scanned
  have hk : 2 ≤ [1, 2, 3].length := by decide
  obtain ⟨⟨_, -, -, hall⟩, -⟩ :=
    scan_outputs_reductions (ω := Unit) "difference" (· - ·) 10 ([1, 2, 3] : List Int)
  obtain ⟨-, -, front, hseen, -, hreads⟩ := hall 2 hk
  exact ⟨hk, front, hseen, hreads⟩

end Transducer
end ParseFlow.Pipeline
