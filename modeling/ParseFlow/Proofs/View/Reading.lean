import ParseFlow.Proofs.View.Place

/-!
# Reading views

A view is read item by item from its start, or at an index. Reading on from the end of some items
finds those behind them, so that the items read are those in the window, a cut at any index parts
them in two, and an index finds the first item that is left when the view begins there. `store` lays
items out as they lie in a source, one cell at each index position.
-/
namespace ParseFlow

variable {α : Type} [Item α]

/-! ## Reading on -/

theorem itemAt?_append_add (xs ys : List α) (n : Nat) :
    itemAt? (xs ++ ys) (extent xs + n) = itemAt? ys n := by
  induction xs with
  | nil => rw [extent_nil, Nat.zero_add, List.nil_append]
  | cons x xs ih =>
    obtain ⟨k, hk⟩ := Nat.exists_eq_add_one.mpr (Item.width_pos x)
    have hn : extent (x :: xs) + n = extent xs + n + k + 1 := by
      rw [extent_cons]
      omega
    have hle : width x ≤ extent xs + n + k + 1 := by omega
    have hsub : extent xs + n + k + 1 - width x = extent xs + n := by omega
    rw [hn, List.cons_append, itemAt?, if_pos hle, hsub, ih]

theorem itemAt?_zero (xs : List α) : itemAt? xs 0 = xs.head?.map fun x => (x, width x) := by
  cases xs <;> rfl

/-- What begins where some items end is the first of the others. -/
theorem itemAt?_append (xs ys : List α) :
    itemAt? (xs ++ ys) (extent xs) = ys.head?.map fun y => (y, width y) := by
  have h := itemAt?_append_add xs ys 0
  rwa [Nat.add_zero, itemAt?_zero] at h

/-- Reading on from where some items end reads the others. -/
theorem readFrom_append (xs ys : List α) : readFrom (xs ++ ys) (extent xs) = ys := by
  induction ys generalizing xs with
  | nil => exact readFrom_of_none (itemAt?_append xs [])
  | cons y ys ih =>
    have hrest := ih (xs ++ [y])
    rw [List.append_assoc, List.singleton_append, extent_append, extent_cons, extent_nil,
      Nat.add_zero] at hrest
    rw [readFrom_of_some (itemAt?_append xs (y :: ys)), hrest]

/-- The item at each position, as often as positions lie in it. -/
theorem map_head?_dropExtent (xs : List α) :
    ((List.range (extent xs)).map fun i => (dropExtent i xs).head?) =
      xs.flatMap fun x => List.replicate (width x) (some x) := by
  induction xs with
  | nil => rfl
  | cons x xs ih =>
    have hfirst : ((List.range (width x)).map fun i => (dropExtent i (x :: xs)).head?) =
        List.replicate (width x) (some x) := by
      refine List.eq_replicate_iff.mpr ⟨by rw [List.length_map, List.length_range], ?_⟩
      intro item hitem
      obtain ⟨i, hi, rfl⟩ := List.mem_map.mp hitem
      have hlt := List.mem_range.mp hi
      rw [dropExtent, if_neg (by omega), List.head?_cons]
    have hothers : ∀ i, dropExtent (width x + i) (x :: xs) = dropExtent i xs := by
      intro i
      rw [dropExtent, if_pos (Nat.le_add_right _ _), Nat.add_sub_cancel_left]
    rw [extent_cons, List.range_add, List.map_append, hfirst, List.map_map, List.flatMap_cons, ← ih]
    simp only [Function.comp_def, hothers]

/-! ## Storage -/

/-- Types of items that lie in storage as cells, one cell at each index position. Cells in a row can
be read as items in one way only. -/
class Stored (α : Type) [Item α] where
  Cell : Type
  cells : α → List Cell
  length_cells : ∀ x, (cells x).length = width x
  eq_of_flatMap_cells : ∀ {xs ys : List α}, xs.flatMap cells = ys.flatMap cells → xs = ys

open Stored

/-- The bytes of the UTF-8 form. -/
instance : Stored Char where
  Cell := UInt8
  cells := String.utf8EncodeChar
  length_cells := String.length_utf8EncodeChar
  eq_of_flatMap_cells h := String.ofList_injective (String.toByteArray_inj.mp (congrArg List.toByteArray h))

/-- The value itself. -/
instance : Stored Value where
  Cell := Value
  cells v := [v]
  length_cells _ := rfl
  eq_of_flatMap_cells h := by rwa [List.flatMap_singleton', List.flatMap_singleton'] at h

/-- A source that is made of the items, cell by cell. -/
def store [Stored α] (items : List α) : List (Cell α) := items.flatMap cells

/-- A text is stored as the bytes of the string. -/
theorem store_chars (text : List Char) : store text = (String.ofList text).toByteArray.data.toList :=
  List.toList_data_toByteArray.symm

theorem length_store [Stored α] (items : List α) : (store items).length = extent items := by
  induction items with
  | nil => rfl
  | cons x items ih =>
    rw [store, List.flatMap_cons, List.length_append, length_cells, extent_cons, ← ih, store]

theorem store_append [Stored α] (xs ys : List α) : store (xs ++ ys) = store xs ++ store ys :=
  List.flatMap_append

/-- No character's bytes begin those of another one, so that bytes of a text that are a text
themselves are its first characters. -/
theorem store_isPrefix_iff {xs ys : List Char} : store xs <+: store ys ↔ xs <+: ys := by
  constructor
  · rintro ⟨others, h⟩
    refine List.isPrefix_of_utf8Encode_append_eq_utf8Encode others.toByteArray ?_
    rw [List.utf8Encode, List.utf8Encode, ← List.toByteArray_append]
    exact congrArg List.toByteArray h
  · rintro ⟨others, rfl⟩
    rw [store_append]
    exact List.prefix_append _ _

namespace View

/-- The cells of the source that the window covers. -/
def stored [Stored α] (v : View α) : List (Cell α) :=
  (store v.source.items).extract v.offset (v.offset + v.len)

variable {v w : View α}

/-- The window covers the cells of its items. -/
theorem Valid.stored_eq [Stored α] (h : v.Valid) : v.stored = store v.window := by
  obtain ⟨before, after, hs, hb, hl⟩ := h.split
  rw [← length_store] at hb hl
  rw [stored, hs, store_append, store_append, List.extract, Nat.add_sub_cancel_left,
    List.drop_left' hb, List.take_left' hl]

/-! ## Cutting a view in two -/

theorem iter_eq_window (v : View α) : v.iter = v.window := readFrom_append [] v.window

/-- The part before an index ends where the part from it on begins. -/
theorem Valid.slice_before (h : v.Valid) (n : Nat) :
    v.slice (.before n) = v.upTo (v.behind (takeExtent n v.window)) := by
  have hl := h.extent_window
  have hstart : floorBoundary v.window (min 0 v.len) = 0 := by
    rw [Nat.zero_min, floorBoundary, takeExtent_zero, extent_nil]
  have hstop : floorBoundary v.window (min n v.len) = extent (takeExtent n v.window) := by
    rw [← hl, floorBoundary, takeExtent_min]
  simp only [View.slice, Range.before, Range.first, Range.limit, hstart, hstop, upTo, behind,
    Nat.add_zero, Nat.max_zero, Nat.sub_zero, Nat.add_sub_cancel_left]

theorem Valid.slice_onwards (h : v.Valid) (n : Nat) :
    v.slice (.onwards n) = v.behind (takeExtent n v.window) := h.advance_eq_behind n

/-- Cutting a view at any index loses and duplicates nothing, the items that are read are stored as
the window lies in the source, and views are equal, or lie there alike, if the same items are read
from both. -/
theorem iter_cut [BEq α] [Stored α] (hv : v.Valid) (hw : w.Valid) (n : Nat) :
    v.iter = (v.slice (.before n)).iter ++ (v.slice (.onwards n)).iter ∧
      (v.slice (.before n)).len + (v.slice (.onwards n)).len = v.len ∧
      store v.iter = v.stored ∧ v.sameContents w = (v.iter == w.iter) ∧
      (v.stored = w.stored ↔ v.iter = w.iter) := by
  have hcut := takeExtent_append_dropExtent n v.window
  have hfront := hv.window_upTo hcut.symm
  obtain ⟨hvalid, hback⟩ := hv.behind_spec hcut.symm
  have hitems : v.iter = (v.slice (.before n)).iter ++ (v.slice (.onwards n)).iter := by
    rw [iter_eq_window, iter_eq_window, iter_eq_window, hv.slice_before, hv.slice_onwards, hfront,
      hback, hcut]
  refine ⟨hitems, ?_, ?_, ?_, ?_⟩
  · have hle := extent_append (takeExtent n v.window) (dropExtent n v.window)
    rw [hcut, hv.extent_window] at hle
    rw [hv.slice_before, hv.slice_onwards]
    simp only [upTo, behind]
    omega
  · rw [iter_eq_window, hv.stored_eq]
  · rw [iter_eq_window, iter_eq_window, sameContents]
  · rw [iter_eq_window, iter_eq_window, hv.stored_eq, hw.stored_eq]
    exact ⟨eq_of_flatMap_cells, congrArg store⟩

/-- A cut inside a character, and a view of another source that holds the same text. -/
theorem iter_cut_inside_character :
    let v : View Char := ⟨⟨0, ['x', 'é', '€', 'z']⟩, 1, 6⟩
    let w : View Char := ofSource ⟨1, ['é', '€', 'z']⟩
    v.Valid ∧ w.Valid ∧ v.iter = (v.slice (.before 3)).iter ++ (v.slice (.onwards 3)).iter ∧
      (v.slice (.before 3)).len = 2 ∧ (v.slice (.onwards 3)).len = 4 ∧
      v.stored = "é€z".toByteArray.data.toList ∧ v.iter = w.iter := by
  intro v w
  have hv : v.Valid := by
    constructor
    · exact ⟨['x'], ['é', '€', 'z'], rfl, by decide⟩
    · exact ⟨['x', 'é', '€', 'z'], [], rfl, by decide⟩
  have hw : w.Valid := valid_ofSource _
  obtain ⟨hitems, -, hstored, hsame, -⟩ := iter_cut hv hw 3
  have hwindow : v.window = ['é', '€', 'z'] := by decide
  have heq : v.sameContents w = true := by decide
  rw [hsame, beq_iff_eq] at heq
  rw [iter_eq_window, hwindow, store_chars] at hstored
  exact ⟨hv, hw, hitems, by decide, by decide, hstored.symm, heq⟩

/-! ## Reading at an index -/

/-- An index finds the first item that is left when all that end before it are dropped. -/
theorem Valid.at?_eq (h : v.Valid) (i : Nat) : v.at? i = (dropExtent i v.window).head? := by
  have hl := h.extent_window
  by_cases hi : v.len ≤ i
  · rw [at?, if_pos hi, dropExtent_of_le (by omega), List.head?_nil]
  · have hat := itemAt?_append (takeExtent i v.window) (dropExtent i v.window)
    rw [takeExtent_append_dropExtent] at hat
    rw [at?, if_neg hi, floorBoundary, hat, Option.map_map]
    exact congrFun Option.map_id _

theorem peek?_eq (v : View α) : v.peek? = v.window.head?.map fun x => (x, width x) :=
  itemAt?_zero v.window

/-- Reading at an index inside the window finds the item there, the one that a view from this index
on begins with; past its end nothing is found. Read at all indexes, each item comes as often as it
spans positions. -/
theorem index_reads_agree (hv : v.Valid) :
    (∀ i, v.len ≤ i → v.at? i = none) ∧
      (∀ i, i < v.len → v.at? i = (v.slice (.onwards i)).at? 0 ∧
        v.at? i = (v.slice (.onwards i)).peek?.map (·.1)) ∧
      (List.range v.len).map v.at? =
        v.iter.flatMap fun x => List.replicate (width x) (some x) := by
  refine ⟨fun i hi => if_pos hi, fun i _ => ?_, ?_⟩
  · obtain ⟨hvalid, hw⟩ := hv.behind_spec (takeExtent_append_dropExtent i v.window).symm
    rw [hv.slice_onwards, hvalid.at?_eq, peek?_eq, hw, hv.at?_eq, dropExtent_zero, Option.map_map]
    exact ⟨rfl, (congrFun Option.map_id _).symm⟩
  · rw [iter_eq_window, ← map_head?_dropExtent, hv.extent_window]
    exact List.map_congr_left fun i _ => hv.at?_eq i

/-- The view ends inside its source, and both characters span more than one position. -/
theorem index_reads_agree_across_bytes :
    let v : View Char := ⟨⟨0, ['x', 'é', '€', 'z']⟩, 1, 5⟩
    v.Valid ∧ v.at? 5 = none ∧ v.at? 3 = (v.slice (.onwards 3)).at? 0 ∧
      (List.range v.len).map v.at? = [some 'é', some 'é', some '€', some '€', some '€'] := by
  intro v
  have hv : v.Valid := by
    constructor
    · exact ⟨['x'], ['é', '€', 'z'], rfl, by decide⟩
    · exact ⟨['x', 'é', '€'], ['z'], rfl, by decide⟩
  obtain ⟨hpast, hinside, hall⟩ := index_reads_agree hv
  refine ⟨hv, hpast 5 (by decide), (hinside 3 (by decide)).1, ?_⟩
  rw [hall, iter_eq_window]
  decide

end View
end ParseFlow
