import Mathlib.Data.List.Permutation
import ParseFlow.Proofs.Pipeline.Composition

/-!
# Sorting

A list is in order if its items ascend, and in stable order if moreover the items on each level
stand as they stood before. The levels settle the rest: two lists that ascend and have the same
items on each level, in the same order, are equal. So there is one stable order of a list, which is
the one that sorting puts it in, and sorting by one order and then by another comes to sorting once,
by the second order and by the first where the second finds no difference.
-/
namespace ParseFlow.Pipeline

variable {ω α : Type} {order first second : α → α → Ordering}

/-- The items that stand on one level with `a`, in the order in which they come. -/
def level (order : α → α → Ordering) (a : α) (items : List α) : List α :=
  items.filter fun b => order a b == .eq

/-- No item stands in front of a lesser one. -/
def Ascending (order : α → α → Ordering) (items : List α) : Prop :=
  items.Pairwise fun a b => (order a b).isLE

/-- The items in ascending order, those on each level as they stood before. -/
structure StableOrder (order : α → α → Ordering) (items sorted : List α) : Prop where
  perm : sorted.Perm items
  ascending : Ascending order sorted
  levels : ∀ a, level order a sorted = level order a items

/-! ## Levels -/

theorem mem_level {a b : α} {items : List α} :
    b ∈ level order a items ↔ b ∈ items ∧ order a b = .eq := by
  rw [level, List.mem_filter, beq_iff_eq]

theorem level_cons_of_eq {a x : α} (h : order a x = .eq) (items : List α) :
    level order a (x :: items) = x :: level order a items :=
  List.filter_cons_of_pos (beq_iff_eq.mpr h)

theorem level_cons_of_ne {a x : α} (h : order a x ≠ .eq) (items : List α) :
    level order a (x :: items) = level order a items :=
  List.filter_cons_of_neg (mt beq_iff_eq.mp h)

theorem level_level (a : α) (items : List α) :
    level order a (level order a items) = level order a items :=
  List.filter_eq_self.mpr fun _ hb => (List.mem_filter.mp hb).2

/-- An item is on the level of the second order and, among those, on that of the first. -/
theorem level_compareLex (a : α) (items : List α) :
    level (compareLex second first) a items = level first a (level second a items) := by
  rw [level, level, level, List.filter_filter]
  refine List.filter_congr fun b _ => ?_
  rw [compareLex]
  cases second a b <;> cases first a b <;> rfl

theorem level_comm (a : α) (items : List α) :
    level first a (level second a items) = level second a (level first a items) :=
  List.filter_comm _ _ items

section Levels

variable [Std.TransCmp order] {xs ys items : List α}

theorem mem_of_levels (h : ∀ a, level order a xs = level order a ys) {x : α} (hx : x ∈ xs) :
    x ∈ ys := by
  have hmem : x ∈ level order x xs := mem_level.mpr ⟨hx, Std.ReflCmp.compare_self⟩
  rw [h] at hmem
  exact (mem_level.mp hmem).1

/-- Nothing in an ascending list is less than its first item. -/
theorem Ascending.isLE_of_mem {a b : α} (h : Ascending order (a :: items)) (hb : b ∈ a :: items) :
    (order a b).isLE := by
  rcases List.mem_cons.mp hb with rfl | hb
  · exact Ordering.isLE_of_eq_eq Std.ReflCmp.compare_self
  · exact List.rel_of_pairwise_cons h hb

/-- Lists that ascend are equal if they have the same levels. -/
theorem eq_of_levels (hx : Ascending order xs) (hy : Ascending order ys)
    (h : ∀ a, level order a xs = level order a ys) : xs = ys := by
  induction xs generalizing ys with
  | nil =>
    have hnone : ∀ y, y ∉ ys := fun y hmem => List.not_mem_nil (mem_of_levels (h · |>.symm) hmem)
    exact (List.eq_nil_iff_forall_not_mem.mpr hnone).symm
  | cons x xs ih =>
    cases ys with
    | nil => exact absurd (mem_of_levels h List.mem_cons_self) List.not_mem_nil
    | cons y ys =>
      -- each first item is found in the other list, so neither is less
      have hyx : (order y x).isLE := hy.isLE_of_mem (mem_of_levels h List.mem_cons_self)
      have hxy : (order x y).isLE :=
        hx.isLE_of_mem (mem_of_levels (h · |>.symm) List.mem_cons_self)
      have heq : order x y = .eq := Std.OrientedCmp.isLE_antisymm hxy hyx
      have hhead := h x
      rw [level_cons_of_eq Std.ReflCmp.compare_self, level_cons_of_eq heq] at hhead
      obtain rfl : x = y := List.head_eq_of_cons_eq hhead
      refine congrArg (x :: ·) (ih hx.of_cons hy.of_cons fun a => ?_)
      have ha := h a
      by_cases hax : order a x = .eq
      · rw [level_cons_of_eq hax, level_cons_of_eq hax] at ha
        exact List.tail_eq_of_cons_eq ha
      · rwa [level_cons_of_ne hax, level_cons_of_ne hax] at ha

/-- There is one stable order of a list. -/
theorem StableOrder.unique (hx : StableOrder order items xs) (hy : StableOrder order items ys) :
    xs = ys :=
  eq_of_levels hx.ascending hy.ascending fun a => (hx.levels a).trans (hy.levels a).symm

end Levels

/-! ## Sorting once -/

theorem stableSort_eq (order : α → α → Ordering) (items : List α) :
    stableSort order items = items.mergeSort fun a b => (order a b).isLE := by
  rw [stableSort]
  congr
  funext a b
  exact (Ordering.isLE_eq_not_beq_gt).symm

section Once

variable [Std.TransCmp order] (items : List α)

theorem isLE_total (a b : α) : ((order a b).isLE || (order b a).isLE) = true := by
  have hswap : order b a = (order a b).swap := Std.OrientedCmp.eq_swap
  rw [hswap]
  cases order a b <;> rfl

theorem ascending_stableSort : Ascending order (stableSort order items) := by
  rw [stableSort_eq]
  exact List.pairwise_mergeSort (fun _ _ _ => Std.TransCmp.isLE_trans) isLE_total items

theorem ascending_level (a : α) : Ascending order (level order a items) := by
  refine List.Pairwise.imp_of_mem ?_ (List.pairwise_of_forall fun _ _ => trivial)
  intro b c hb hc _
  have hba : order b a = .eq := Std.OrientedCmp.eq_symm (mem_level.mp hb).2
  exact Ordering.isLE_of_eq_eq (Std.TransCmp.eq_trans hba (mem_level.mp hc).2)

theorem stableOrder_stableSort : StableOrder order items (stableSort order items) := by
  have hperm : (stableSort order items).Perm items := List.mergeSort_perm items _
  refine ⟨hperm, ascending_stableSort items, fun a => ?_⟩
  -- a level ascends, so that it is found in the sorted list as it stands
  have hsub : (level order a items).Sublist (stableSort order items) := by
    rw [stableSort_eq]
    exact List.sublist_mergeSort (fun _ _ _ => Std.TransCmp.isLE_trans) isLE_total
      (ascending_level items a) List.filter_sublist
  have hlevel : (level order a items).Sublist (level order a (stableSort order items)) := by
    have hfilter := hsub.filter fun b => order a b == .eq
    rwa [← level, ← level, level_level] at hfilter
  exact (hlevel.eq_of_length (hperm.filter _).length_eq.symm).symm

end Once

/-! ## Sorting again -/

/-- A stable order of a stable order is one by the second order, and by the first where the second
finds no difference. -/
theorem StableOrder.again [Std.TransCmp second] {items between sorted : List α}
    (hf : StableOrder first items between) (hs : StableOrder second between sorted) :
    StableOrder (compareLex second first) items sorted := by
  refine ⟨hs.perm.trans hf.perm, ?_, fun a => ?_⟩
  · refine List.pairwise_iff_forall_sublist.mpr fun {a b} hab => ?_
    have hle : (second a b).isLE := List.pairwise_iff_forall_sublist.mp hs.ascending hab
    rw [compareLex, Ordering.isLE_then_iff_or]
    rcases Ordering.isLE_iff_eq_lt_or_eq_eq.mp hle with hlt | heq
    · exact .inl hlt
    · -- both are on one level, where they stand as they did between the sorts
      have hlevel : [a, b].Sublist (level second a sorted) := by
        have hboth := hab.filter fun c => second a c == .eq
        rwa [← level, level_cons_of_eq Std.ReflCmp.compare_self, level_cons_of_eq heq] at hboth
      rw [hs.levels] at hlevel
      have hbetween := hlevel.trans List.filter_sublist
      exact .inr ⟨heq, List.pairwise_iff_forall_sublist.mp hf.ascending hbetween⟩
  · rw [level_compareLex, hs.levels, level_comm, hf.levels, level_comm, ← level_compareLex]

namespace Transducer

theorem collect_sortBy (label : String) (order : α → α → Ordering) (items : List α) :
    (sortBy label order : Transducer ω α α).collect items = some (stableSort order items) :=
  Op.collect_eq (.sortBy ⟨label⟩ order) items

theorem collect_sort [Ord α] (items : List α) :
    (sort : Transducer ω α α).collect items = some (stableSort compare items) :=
  Op.collect_eq (.sort compare) items

/-- Sorting by an order puts a list in its stable order, the only one there is. Sorting by one order
and then by another is sorting by the second, with ties broken by the first, and sorting twice by
one order is sorting once. The natural order is one of the orders that may be sorted by. -/
theorem sortBy_stable [Std.TransCmp first] [Std.TransCmp second] (items : List α)
    (label name both : String) :
    ((sortBy label first).compose (sortBy name second) : Transducer ω α α).collect items =
      (sortBy both (compareLex second first) : Transducer ω α α).collect items ∧
    ((sortBy label first).compose (sortBy name first) : Transducer ω α α).collect items =
      (sortBy label first : Transducer ω α α).collect items ∧
    (∃ sorted, (sortBy label first : Transducer ω α α).collect items = some sorted ∧
      StableOrder first items sorted ∧
      ∀ others, StableOrder first items others → others = sorted) ∧
    ∀ natural : Ord α, (sort : Transducer ω α α).story items =
      (sortBy label natural.compare : Transducer ω α α).story items := by
  have hfirst : StableOrder first items (stableSort first items) := stableOrder_stableSort items
  have hsecond : StableOrder second (stableSort first items)
      (stableSort second (stableSort first items)) := stableOrder_stableSort _
  have hchain := collect_compose (γ := α) (collect_sortBy (ω := ω) label first items)
  refine ⟨?_, ?_, ⟨_, collect_sortBy label first items, hfirst, fun _ h => h.unique hfirst⟩,
    fun _ => rfl⟩
  · rw [hchain, collect_sortBy, collect_sortBy]
    exact congrArg some ((hfirst.again hsecond).unique (stableOrder_stableSort items))
  · rw [hchain, collect_sortBy, collect_sortBy, stableSort_eq,
      List.mergeSort_of_pairwise (ascending_stableSort items)]

/-- Falling numbers, then put in the order of their remainders. -/
theorem sortBy_stable_remainders :
    let falling : Nat → Nat → Ordering := fun m n => compare n m
    let remainder : Nat → Nat → Ordering := compareOn (· % 3)
    Std.TransCmp falling ∧ Std.TransCmp remainder ∧
      ((sortBy "falling" falling).compose (sortBy "remainder" remainder) :
        Transducer Unit Nat Nat).collect [4, 3, 1, 6, 7] = some [6, 3, 7, 4, 1] := by
  intro falling remainder
  have hf : Std.TransCmp falling := Std.TransCmp.opposite
  have hr : Std.TransCmp remainder := inferInstance
  refine ⟨hf, hr, ?_⟩
  rw [(sortBy_stable [4, 3, 1, 6, 7] "falling" "remainder" "both").1, collect_sortBy]
  cbv

end Transducer
end ParseFlow.Pipeline
