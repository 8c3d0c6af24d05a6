import Mathlib.Data.List.Basic
import ParseFlow.Value.Function

/-!
# The order of dynamic values

Values of different kinds stand in the order of their kinds, and those of one kind in the order of
their contents, lists and tuples lexicographically. The order is total, and values that it does not
tell apart are equal. The orders that are known by name are total too, although most of them put
different values on a level.
-/
namespace ParseFlow.Value

/-- The members of a list or tuple. -/
def members : Value → List Value
  | list items => items
  | tuple fields => fields
  | _ => []

/-- A property of all values, which a value has if its members do. -/
theorem members_induction {P : Value → Prop} (step : ∀ v, (∀ u ∈ v.members, P u) → P v)
    (v : Value) : P v :=
  @Value.rec P (fun items => ∀ u ∈ items, P u) (step .unit nofun) (fun b => step (.bool b) nofun)
    (fun n => step (.int n) nofun) (fun c => step (.char c) nofun) (fun s => step (.str s) nofun)
    (fun items h => step (.list items) h) (fun fields h => step (.tuple fields) h) nofun
    (fun _ _ hu hus => List.forall_mem_cons.mpr ⟨hu, hus⟩) v

/-! ## Values of one kind -/

/-- Two values of one kind. -/
inductive SameKind : Value → Value → Prop
  | unit : SameKind .unit .unit
  | bool (a b : Bool) : SameKind (.bool a) (.bool b)
  | int (m n : Int) : SameKind (.int m) (.int n)
  | char (c d : Char) : SameKind (.char c) (.char d)
  | str (s t : String) : SameKind (.str s) (.str t)
  | list (items others : List Value) : SameKind (.list items) (.list others)
  | tuple (fields others : List Value) : SameKind (.tuple fields) (.tuple others)

theorem sameKind_iff {v w : Value} : SameKind v w ↔ v.kind = w.kind := by
  constructor
  · rintro (_ | _ | _ | _ | _ | _ | _) <;> rfl
  · intro h
    cases v <;> cases w <;> first | constructor | cases h

theorem compare_of_kind_ne {v w : Value} (h : v.kind ≠ w.kind) :
    Value.compare v w = Ord.compare v.kind w.kind := by
  cases v <;> cases w <;> first | rfl | exact absurd rfl h

theorem kind_le_of_isLE {v w : Value} (h : (Value.compare v w).isLE) : v.kind ≤ w.kind := by
  by_cases hk : v.kind = w.kind
  · exact Nat.le_of_eq hk
  · rw [compare_of_kind_ne hk] at h
    exact Nat.isLE_compare.mp h

/-! ## Members one by one -/

theorem compareAll_swap {vs : List Value}
    (h : ∀ v ∈ vs, ∀ w, Value.compare v w = (Value.compare w v).swap) (ws : List Value) :
    Value.compareAll vs ws = (Value.compareAll ws vs).swap := by
  induction vs generalizing ws with
  | nil => cases ws <;> rfl
  | cons v vs ih =>
    obtain ⟨hv, hvs⟩ := List.forall_mem_cons.mp h
    cases ws with
    | nil => rfl
    | cons w ws => rw [Value.compareAll, Value.compareAll, Ordering.swap_then, ← hv, ← ih hvs]

theorem compareAll_eq {vs : List Value}
    (h : ∀ v ∈ vs, ∀ w, Value.compare v w = .eq ↔ v = w) (ws : List Value) :
    Value.compareAll vs ws = .eq ↔ vs = ws := by
  induction vs generalizing ws with
  | nil => cases ws <;> simp [Value.compareAll]
  | cons v vs ih =>
    obtain ⟨hv, hvs⟩ := List.forall_mem_cons.mp h
    cases ws with
    | nil => simp [Value.compareAll]
    | cons w ws => rw [Value.compareAll, Ordering.then_eq_eq, hv, ih hvs, List.cons.injEq]

/-! ## The order -/

theorem compare_swap (v w : Value) : Value.compare v w = (Value.compare w v).swap := by
  induction v using members_induction generalizing w with
  | step v ih =>
    by_cases hk : v.kind = w.kind
    · cases sameKind_iff.mpr hk with
      | unit => rfl
      | bool a b => exact Std.OrientedOrd.eq_swap
      | int m n => exact Std.OrientedOrd.eq_swap
      | char c d => exact Std.OrientedOrd.eq_swap
      | str s t => exact Std.OrientedOrd.eq_swap
      | list items others => exact compareAll_swap ih others
      | tuple fields others => exact compareAll_swap ih others
    · rw [compare_of_kind_ne hk, compare_of_kind_ne (Ne.symm hk), Std.OrientedOrd.eq_swap]

theorem compare_eq (v w : Value) : Value.compare v w = .eq ↔ v = w := by
  induction v using members_induction generalizing w with
  | step v ih =>
    by_cases hk : v.kind = w.kind
    · cases sameKind_iff.mpr hk with
      | unit => exact iff_of_true rfl rfl
      | bool a b => exact Std.LawfulEqOrd.compare_eq_iff_eq.trans (by rw [bool.injEq])
      | int m n => exact Std.LawfulEqOrd.compare_eq_iff_eq.trans (by rw [int.injEq])
      | char c d =>
        rw [char.injEq, ← Char.toNat_inj]
        exact Std.LawfulEqOrd.compare_eq_iff_eq
      | str s t =>
        have hchars : s.toList.map Char.toNat = t.toList.map Char.toNat ↔ s = t := by
          rw [List.map_inj_right fun _ _ => Char.toNat_inj.mp, String.toList_inj]
        rw [str.injEq, ← hchars]
        exact Std.LawfulEqOrd.compare_eq_iff_eq
      | list items others => exact (compareAll_eq ih others).trans (by rw [list.injEq, members])
      | tuple fields others => exact (compareAll_eq ih others).trans (by rw [tuple.injEq, members])
    · rw [compare_of_kind_ne hk, Std.LawfulEqOrd.compare_eq_iff_eq]
      exact iff_of_false hk fun h => hk (congrArg kind h)

/-- Values in strict order stay so when one between them is left out, if they are in order at
all. -/
theorem compare_lt_of_isLE {u v w : Value} (h : Value.compare u v = .lt)
    (h' : Value.compare v w = .lt) (hle : (Value.compare u w).isLE) : Value.compare u w = .lt := by
  rcases Ordering.isLE_iff_eq_lt_or_eq_eq.mp hle with hlt | heq
  · exact hlt
  · obtain rfl := (compare_eq u w).mp heq
    rw [compare_swap, h'] at h
    cases h

theorem compareAll_isLE_trans {us : List Value}
    (h : ∀ u ∈ us, ∀ {v w}, (Value.compare u v).isLE → (Value.compare v w).isLE →
      (Value.compare u w).isLE) {vs ws : List Value}
    (huv : (Value.compareAll us vs).isLE) (hvw : (Value.compareAll vs ws).isLE) :
    (Value.compareAll us ws).isLE := by
  induction us generalizing vs ws with
  | nil => cases ws <;> rfl
  | cons u us ih =>
    obtain ⟨hu, hus⟩ := List.forall_mem_cons.mp h
    cases vs with
    | nil => cases huv
    | cons v vs =>
      cases ws with
      | nil => cases hvw
      | cons w ws =>
        rw [Value.compareAll, Ordering.isLE_then_iff_or, compare_eq] at huv hvw ⊢
        rcases huv with huv | ⟨rfl, huv⟩
        · rcases hvw with hvw | ⟨rfl, -⟩
          · have hle := hu (Ordering.isLE_of_eq_lt huv) (Ordering.isLE_of_eq_lt hvw)
            exact .inl (compare_lt_of_isLE huv hvw hle)
          · exact .inl huv
        · rcases hvw with hvw | ⟨rfl, hvw⟩
          · exact .inl hvw
          · exact .inr ⟨rfl, ih hus huv hvw⟩

theorem compare_isLE_trans {u v w : Value} (h : (Value.compare u v).isLE)
    (h' : (Value.compare v w).isLE) : (Value.compare u w).isLE := by
  induction u using members_induction generalizing v w with
  | step u ih =>
    have huv := kind_le_of_isLE h
    have hvw := kind_le_of_isLE h'
    by_cases hk : u.kind = w.kind
    · have hv : u.kind = v.kind := by omega
      have hw : v.kind = w.kind := by omega
      cases sameKind_iff.mpr hv with
      | unit => cases sameKind_iff.mpr hw; rfl
      | bool a b => cases sameKind_iff.mpr hw; exact Std.TransOrd.isLE_trans h h'
      | int m n => cases sameKind_iff.mpr hw; exact Std.TransOrd.isLE_trans h h'
      | char c d => cases sameKind_iff.mpr hw; exact Std.TransOrd.isLE_trans h h'
      | str s t => cases sameKind_iff.mpr hw; exact Std.TransOrd.isLE_trans h h'
      | list items others => cases sameKind_iff.mpr hw; exact compareAll_isLE_trans ih h h'
      | tuple fields others => cases sameKind_iff.mpr hw; exact compareAll_isLE_trans ih h h'
    · rw [compare_of_kind_ne hk]
      exact Nat.isLE_compare.mpr (Nat.le_trans huv hvw)

/-- The order is total. -/
instance : Std.TransOrd Value where
  eq_swap := compare_swap _ _
  isLE_trans := compare_isLE_trans

/-- Only equal values are on a level. -/
instance : Std.LawfulEqOrd Value where
  compare_self := (compare_eq _ _).mpr rfl
  eq_of_compare := (compare_eq _ _).mp

/-- The orders known by name are total preorders. -/
theorem order?_total {name : String} {order : Value → Value → Ordering}
    (h : order? name = some order) : Std.TransCmp order := by
  simp only [order?] at h
  split at h <;> cases h
  · exact inferInstanceAs (Std.TransCmp fun v w : Value => compare v w)
  · exact Std.TransCmp.opposite
  · exact inferInstanceAs (Std.TransCmp (compareOn len))
  · exact inferInstanceAs (Std.TransCmp (compareOn fun v : Value => v.toInt % 3))
  · exact { eq_swap := rfl, isLE_trans := fun _ h => h }

end ParseFlow.Value
