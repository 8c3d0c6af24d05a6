import Mathlib.Data.List.Destutter
import Mathlib.Data.List.Sort
import ParseFlow.Proofs.Pipeline.Sorting
import ParseFlow.Proofs.Value.Order

/-!
# Repeated items

Repetitions are dropped by looking back at the item before, or at all items before. Sorting puts
equal items next to each other, so that behind it both come to the same. What they leave is in
strict order, and no other list in strict order has those items.
-/
namespace ParseFlow.Pipeline

variable {ω α : Type} {items : List α}

/-! ## Strict order -/

/-- The items without repetitions, in strict order. -/
structure StrictOrder [Ord α] (items sorted : List α) : Prop where
  strict : sorted.Pairwise fun a b => compare a b = .lt
  members : ∀ a, a ∈ sorted ↔ a ∈ items

theorem StrictOrder.unique [Ord α] [Std.OrientedOrd α] {sorted others : List α}
    (h : StrictOrder items sorted) (h' : StrictOrder items others) : sorted = others := by
  have hirrefl : Std.Irrefl fun a b : α => compare a b = .lt := ⟨fun a h => by
    rw [Std.ReflOrd.compare_self] at h
    cases h⟩
  have hantisymm : Std.Antisymm fun a b : α => compare a b = .lt := ⟨fun a b hab hba => by
    rw [Std.OrientedOrd.eq_swap, hba] at hab
    cases hab⟩
  exact h.strict.eq_of_mem_iff h'.strict fun a => (h.members a).trans (h'.members a).symm

theorem strictOrder_of_nodup [Ord α] [Std.LawfulEqOrd α] {sorted : List α}
    (hs : Ascending compare sorted) (hn : sorted.Nodup) (hm : ∀ a, a ∈ sorted ↔ a ∈ items) :
    StrictOrder items sorted := by
  refine ⟨(hs.and hn).imp fun ⟨hle, hne⟩ => ?_, hm⟩
  exact (Ordering.isLE_iff_eq_lt_or_eq_eq.mp hle).resolve_right
    (mt Std.LawfulEqOrd.eq_of_compare hne)

variable [DecidableEq α] {a held : α} {seen : List α}

/-! ## First occurrences -/

theorem firstOccurrences_sublist (seen items : List α) :
    (firstOccurrences seen items).Sublist items := by
  induction items generalizing seen with
  | nil => exact .slnil
  | cons x items ih =>
    by_cases h : x ∈ seen
    · rw [firstOccurrences, if_pos h]
      exact .cons x (ih seen)
    · rw [firstOccurrences, if_neg h]
      exact .cons_cons x (ih (x :: seen))

theorem mem_firstOccurrences : a ∈ firstOccurrences seen items ↔ a ∈ items ∧ a ∉ seen := by
  induction items generalizing seen with
  | nil => simp [firstOccurrences]
  | cons x items ih =>
    by_cases h : x ∈ seen
    · rw [firstOccurrences, if_pos h, ih, List.mem_cons]
      refine and_congr_left fun hnew => ?_
      have hx : a ≠ x := fun heq => hnew (heq ▸ h)
      simp only [hx, false_or]
    · rw [firstOccurrences, if_neg h, List.mem_cons, ih, List.mem_cons, List.mem_cons]
      by_cases hx : a = x
      · exact iff_of_true (.inl hx) ⟨.inl hx, hx ▸ h⟩
      · simp only [hx, false_or]

theorem nodup_firstOccurrences (seen items : List α) : (firstOccurrences seen items).Nodup := by
  induction items generalizing seen with
  | nil => exact List.nodup_nil
  | cons x items ih =>
    by_cases h : x ∈ seen
    · rw [firstOccurrences, if_pos h]
      exact ih seen
    · rw [firstOccurrences, if_neg h, List.nodup_cons]
      refine ⟨fun hx => ?_, ih (x :: seen)⟩
      exact (mem_firstOccurrences.mp hx).2 List.mem_cons_self

/-! ## First items of runs -/

/-- The items of a run that are not held back were seen. -/
theorem firstOccurrences_later (h : held ∈ seen) (items : List α) :
    firstOccurrences seen (firstOfRuns.later held items) = firstOccurrences seen items := by
  induction items generalizing held seen with
  | nil => rfl
  | cons y items ih =>
    by_cases heq : held = y
    · subst heq
      rw [firstOfRuns.later, if_pos rfl, ih h, firstOccurrences, if_pos h]
    · rw [firstOfRuns.later, if_neg heq]
      by_cases hy : y ∈ seen
      · rw [firstOccurrences, firstOccurrences, if_pos hy, if_pos hy, ih hy]
      · rw [firstOccurrences, firstOccurrences, if_neg hy, if_neg hy, ih List.mem_cons_self]

theorem firstOccurrences_firstOfRuns (items : List α) :
    firstOccurrences [] (firstOfRuns items) = firstOccurrences [] items := by
  cases items with
  | nil => rfl
  | cons x items =>
    rw [firstOfRuns, firstOccurrences, firstOccurrences, if_neg List.not_mem_nil,
      if_neg List.not_mem_nil, firstOccurrences_later List.mem_cons_self]

theorem firstOfRuns_of_nodup (h : items.Nodup) : firstOfRuns items = items := by
  rw [firstOfRuns_eq_destutter]
  exact List.destutter_of_isChain _ _ h.isChain

/-! ## Repetitions in sorted lists -/

section Sorted

variable [Ord α] [Std.TransOrd α] [Std.LawfulEqOrd α]

theorem strictOrder_firstOfRuns (items : List α) :
    StrictOrder items (firstOfRuns (stableSort compare items)) := by
  have hasc : Ascending compare (stableSort compare items) := ascending_stableSort items
  have hantisymm : Std.Antisymm fun a b : α => (compare a b).isLE = true :=
    ⟨fun _ _ hab hba => Std.LawfulEqOrd.eq_of_compare (Std.OrientedCmp.isLE_antisymm hab hba)⟩
  -- in a sorted list equal items stand together
  have hdedup : firstOfRuns (stableSort compare items) = (stableSort compare items).dedup := by
    rw [firstOfRuns_eq_destutter]
    exact hasc.destutter_eq_dedup
  rw [hdedup]
  refine strictOrder_of_nodup (hasc.sublist (List.dedup_sublist _)) (List.nodup_dedup _) fun a => ?_
  rw [List.mem_dedup]
  exact (stableOrder_stableSort items).perm.mem_iff

theorem strictOrder_firstOccurrences (items : List α) :
    StrictOrder items (firstOccurrences [] (stableSort compare items)) := by
  have hasc : Ascending compare (stableSort compare items) := ascending_stableSort items
  refine strictOrder_of_nodup (hasc.sublist (firstOccurrences_sublist _ _))
    (nodup_firstOccurrences _ _) fun a => ?_
  rw [mem_firstOccurrences, (stableOrder_stableSort items).perm.mem_iff]
  exact and_iff_left List.not_mem_nil

theorem strictOrder_stableSort (items : List α) :
    StrictOrder items (stableSort compare (firstOccurrences [] items)) := by
  have horder : StableOrder compare (firstOccurrences [] items)
      (stableSort compare (firstOccurrences [] items)) := stableOrder_stableSort _
  refine strictOrder_of_nodup horder.ascending
    (horder.perm.nodup_iff.mpr (nodup_firstOccurrences _ _)) fun a => ?_
  rw [horder.perm.mem_iff, mem_firstOccurrences]
  exact and_iff_left List.not_mem_nil

end Sorted

namespace Transducer

theorem collect_dedupe (items : List α) :
    (dedupe : Transducer ω α α).collect items = some (firstOfRuns items) := by
  rw [firstOfRuns_eq_destutter]
  exact Op.collect_eq .dedupe items

theorem collect_unique (items : List α) :
    (unique : Transducer ω α α).collect items = some (firstOccurrences [] items) :=
  realises_unique items

/-- What becomes of the items does not depend on how repetitions are dropped. -/
structure RemovalsAgree [Ord α] (ω : Type) (items : List α) : Prop where
  /-- Behind a sort it is enough to look at the item before. -/
  sorted_first : (sort.compose unique : Transducer ω α α).collect items =
    (sort.compose dedupe : Transducer ω α α).collect items
  /-- The sort may come last. -/
  sorted_last : (unique.compose sort : Transducer ω α α).collect items =
    (sort.compose dedupe : Transducer ω α α).collect items
  strict : ∃ sorted, (sort.compose dedupe : Transducer ω α α).collect items = some sorted ∧
    StrictOrder items sorted
  /-- With nothing sorted, looking at the item before makes no difference to `unique`. -/
  dedupe_last : (unique.compose dedupe : Transducer ω α α).collect items =
    (unique : Transducer ω α α).collect items
  dedupe_first : (dedupe.compose unique : Transducer ω α α).collect items =
    (unique : Transducer ω α α).collect items

theorem removalsAgree [Ord α] [Std.TransOrd α] [Std.LawfulEqOrd α] (items : List α) :
    RemovalsAgree ω items := by
  have hruns := strictOrder_firstOfRuns items
  have hnodup := nodup_firstOccurrences [] items
  have hdedupe := collect_compose (γ := α) (collect_dedupe (ω := ω) items)
  have hunique := collect_compose (γ := α) (collect_unique (ω := ω) items)
  have hsort := collect_compose (γ := α) (collect_sort (ω := ω) items)
  constructor <;>
    simp only [hsort, hdedupe, hunique, collect_sort, collect_dedupe, collect_unique,
      Option.some.injEq]
  · exact (strictOrder_firstOccurrences items).unique hruns
  · exact (strictOrder_stableSort items).unique hruns
  · exact ⟨_, rfl, hruns⟩
  · exact firstOfRuns_of_nodup hnodup
  · exact firstOccurrences_firstOfRuns items

/-- However repetitions are dropped from a list and the rest put in order, what is left are its
items in strict order, and `unique` drops all that `dedupe` does. This holds where equality is that
of a total order, and the order of dynamic values is one of those. -/
theorem repetitions_dropped_alike [Ord α] [Std.TransOrd α] [Std.LawfulEqOrd α] :
    (∀ items : List α, RemovalsAgree ω items) ∧
      ∀ values : List Value, RemovalsAgree ω values :=
  ⟨removalsAgree, removalsAgree⟩

/-- Equal lists and tuples, with other items between them. -/
theorem repetitions_dropped_alike_nested :
    let values : List Value :=
      [.tuple [.int 1], .list [.int 2], .list [], .list [.int 2], .list [.tuple [.int 1]], .list []]
    Std.TransOrd Value ∧ Std.LawfulEqOrd Value ∧
      (unique.compose sort : Transducer Unit Value Value).collect values =
        some [.list [], .list [.int 2], .list [.tuple [.int 1]], .tuple [.int 1]] := by
  intro values
  refine ⟨inferInstance, inferInstance, ?_⟩
  rw [((repetitions_dropped_alike (ω := Unit) (α := Value)).1 values).sorted_last,
    collect_compose (collect_sort values), collect_dedupe]
  cbv

end Transducer
end ParseFlow.Pipeline
