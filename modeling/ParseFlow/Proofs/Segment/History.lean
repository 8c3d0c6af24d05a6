import Mathlib.Data.List.GetD
import ParseFlow.Segment
import ParseFlow.Proofs.View.Narrowing
import ParseFlow.Proofs.View.Reading

/-!
# Segments as lists

Segments are made one after the other, each from a view or from one that was made before, and any of
them may be used again. Whatever mix of cells and windows comes of it, each stands for the list that
the same steps make of plain lists. A window in a segment is valid and holds at least one item.
-/
namespace ParseFlow.Segment

open View

variable {α : Type}

/-! ## Segments and their items -/

/-- The first item of a list, and the error of an empty segment if there is none. -/
def firstOf : List α → Except SegmentError α
  | [] => .error .emptySegment
  | item :: _ => .ok item

variable [Item α]

/-- Windows are valid and not empty. -/
def Sound : Segment α → Prop
  | empty => True
  | cons _ rest => rest.Sound
  | window view => view.Valid ∧ view.window ≠ []

/-- The items that come out when the head is taken, then that of the tail, and so on until there is
no head. -/
inductive Walk : Segment α → List α → Prop
  | done {s : Segment α} (h : s.head = .error .emptySegment) : Walk s []
  | step {s : Segment α} {item : α} {others : List α} (h : s.head = .ok item)
      (rest : Walk s.tail others) : Walk s (item :: others)

section View

variable {v : View α}

theorem at?_zero {x : α} {left : List α} (hv : v.Valid) (hw : v.window = x :: left) :
    v.at? 0 = some x := by
  rw [hv.at?_eq, hw, dropExtent_zero, List.head?_cons]

/-- Only a view with items becomes a window. -/
theorem sound_ofView (hv : v.Valid) : (ofView v).Sound := by
  rw [ofView]
  by_cases he : v.isEmpty = true
  · rw [if_pos he]
    exact trivial
  · rw [if_neg he]
    exact ⟨hv, fun hw => he (hv.isEmpty_iff.mpr hw)⟩

theorem items_ofView (hv : v.Valid) : (ofView v).items = v.window := by
  rw [ofView]
  by_cases he : v.isEmpty = true
  · rw [if_pos he, hv.isEmpty_iff.mp he, items]
  · rw [if_neg he, items]

/-- The tail of a window holds what is behind its first item. -/
theorem tail_window {x : α} {left : List α} (hv : v.Valid) (hw : v.window = x :: left) :
    (window v).tail.Sound ∧ (window v).tail.items = left := by
  have hx : v.window = [x] ++ left := hw
  obtain ⟨hvalid, hleft⟩ := hv.behind_spec hx
  have ht : (window v).tail = ofView (v.behind [x]) := by
    simp only [tail, peek?_cons hw, hv.advance_width hw]
  rw [ht]
  refine ⟨sound_ofView hvalid, ?_⟩
  rw [items_ofView hvalid, hleft]

end View

section Sound

variable {s : Segment α}

theorem Sound.head_eq (h : s.Sound) : s.head = firstOf s.items := by
  cases s with
  | empty => rfl
  | cons item rest => rfl
  | window v =>
    obtain ⟨hv, hne⟩ := h
    obtain ⟨x, left, hw⟩ := List.exists_cons_of_ne_nil hne
    simp only [head, at?_zero hv hw, items, hw, firstOf]

theorem Sound.isEmpty_eq (h : s.Sound) : s.isEmpty = s.items.isEmpty := by
  cases s with
  | empty => rfl
  | cons item rest => rfl
  | window v =>
    obtain ⟨hv, hne⟩ := h
    have he : v.isEmpty = false := by
      rw [Bool.eq_false_iff, ne_eq, hv.isEmpty_iff]
      exact hne
    rw [isEmpty, he, items, List.isEmpty_eq_false_iff.mpr hne]

/-- What a tail holds, and that its windows hold something. -/
theorem Sound.tail_spec (h : s.Sound) : s.tail.Sound ∧ s.tail.items = s.items.tail := by
  cases s with
  | empty => exact ⟨trivial, rfl⟩
  | cons item rest => exact ⟨h, rfl⟩
  | window v =>
    obtain ⟨hv, hne⟩ := h
    obtain ⟨x, left, hw⟩ := List.exists_cons_of_ne_nil hne
    obtain ⟨hsound, hitems⟩ := tail_window hv hw
    refine ⟨hsound, ?_⟩
    rw [hitems, items, hw, List.tail_cons]

/-- A walk of the segment comes to an end and yields its items. -/
theorem Sound.walk_items (h : s.Sound) : Walk s s.items := by
  induction hi : s.items generalizing s with
  | nil =>
    apply Walk.done
    rw [h.head_eq, hi, firstOf]
  | cons item others ih =>
    obtain ⟨hsound, hitems⟩ := h.tail_spec
    apply Walk.step
    · rw [h.head_eq, hi, firstOf]
    · apply ih hsound
      rw [hitems, hi, List.tail_cons]

end Sound

/-- One segment has one walk. -/
theorem Walk.unique {s : Segment α} {xs ys : List α} (hx : Walk s xs) (hy : Walk s ys) :
    xs = ys := by
  induction hx generalizing ys with
  | done h =>
    cases hy with
    | done _ => rfl
    | step h' _ =>
      rw [h] at h'
      cases h'
  | step h _ ih =>
    cases hy with
    | done h' =>
      rw [h] at h'
      cases h'
    | step h' rest =>
      rw [h] at h'
      cases h'
      rw [ih rest]

theorem Sound.walk_iff {s : Segment α} (h : s.Sound) (xs : List α) : Walk s xs ↔ xs = s.items := by
  constructor
  · intro hx
    exact hx.unique h.walk_items
  · rintro rfl
    exact h.walk_items

/-! ## Histories -/

/-- How a segment is made. Segments made before are known by their places; a place where none has
been made yet stands for the empty one. -/
inductive Making (α : Type) where
  | empty
  /-- The items of a view of a source, of the whole of it if it is not narrowed. -/
  | ofView (source : Source α) (narrowings : List Narrowing)
  | cons (head : α) (tail : Nat)
  | tail (segment : Nat)

/-- The segment that is made, given those made before. -/
def Making.segment (made : List (Segment α)) : Making α → Segment α
  | empty => .empty
  | ofView source narrowings => .ofView ((View.ofSource source).narrow narrowings)
  | cons head i => .cons head (made.getD i .empty)
  | tail i => (made.getD i .empty).tail

/-- The list that is made, given those made before. -/
def Making.list (made : List (List α)) : Making α → List α
  | empty => []
  | ofView source narrowings => ((View.ofSource source).narrow narrowings).window
  | cons head i => head :: made.getD i []
  | tail i => (made.getD i []).tail

/-- The segments after a history, which goes on from those made before. -/
def segments (made : List (Segment α)) (history : List (Making α)) : List (Segment α) :=
  history.foldl (fun made making => made ++ [making.segment made]) made

/-- The lists after a history. -/
def lists (made : List (List α)) (history : List (Making α)) : List (List α) :=
  history.foldl (fun made making => made ++ [making.list made]) made

section Made

variable {made : List (Segment α)}

theorem sound_getD (h : ∀ s ∈ made, s.Sound) (i : Nat) : (made.getD i .empty).Sound := by
  rw [List.getD_eq_getElem?_getD]
  cases hi : made[i]? with
  | none => exact trivial
  | some s => exact h s (List.mem_of_getElem? hi)

theorem items_getD (made : List (Segment α)) (i : Nat) :
    (made.getD i .empty).items = (made.map items).getD i [] :=
  (List.getD_map made .empty items).symm

/-- Every way of making a segment makes a sound one of sound ones, and does to their items what it
does to lists. -/
theorem Making.spec (h : ∀ s ∈ made, s.Sound) (making : Making α) :
    (making.segment made).Sound ∧ (making.segment made).items = making.list (made.map items) := by
  cases making with
  | empty => exact ⟨trivial, rfl⟩
  | ofView source narrowings =>
    have hv := (valid_ofSource source).narrow narrowings
    exact ⟨sound_ofView hv, items_ofView hv⟩
  | cons head i =>
    refine ⟨sound_getD h i, ?_⟩
    rw [segment, items, items_getD, list]
  | tail i =>
    obtain ⟨hsound, hitems⟩ := (sound_getD h i).tail_spec
    refine ⟨hsound, ?_⟩
    rw [segment, hitems, items_getD, list]

/-- The whole history, step by step. -/
theorem segments_spec (h : ∀ s ∈ made, s.Sound) (history : List (Making α)) :
    (∀ s ∈ segments made history, s.Sound) ∧
      (segments made history).map items = lists (made.map items) history := by
  induction history generalizing made with
  | nil => exact ⟨h, rfl⟩
  | cons making history ih =>
    obtain ⟨hsound, hitems⟩ := making.spec h
    have hmade : ∀ s ∈ made ++ [making.segment made], s.Sound := by
      intro s hs
      rcases List.mem_append.mp hs with hs | hs
      · exact h s hs
      · rw [List.mem_singleton.mp hs]
        exact hsound
    obtain ⟨hall, hlists⟩ := ih hmade
    rw [List.map_append, List.map_singleton, hitems] at hlists
    exact ⟨hall, hlists⟩

end Made

/-- A segment with any history is the immutable list with that history: it has the same items, which
every walk yields, and the same head, emptiness, length and equality. -/
theorem history_implements_list [BEq α] (history : List (Making α)) (i j : Nat) :
    let s := (segments [] history).getD i .empty
    let t := (segments [] history).getD j .empty
    let xs := (lists [] history).getD i []
    let ys := (lists [] history).getD j []
    s.items = xs ∧ s.head = firstOf xs ∧ s.isEmpty = xs.isEmpty ∧ s.len = xs.length ∧
      (∀ walked, Walk s walked ↔ walked = xs) ∧ s.sameItems t = (xs == ys) := by
  have hnone : ∀ s ∈ ([] : List (Segment α)), s.Sound := fun s hs => absurd hs List.not_mem_nil
  obtain ⟨hall, hlists⟩ := segments_spec hnone history
  have hitems : ∀ k, ((segments [] history).getD k .empty).items = (lists [] history).getD k [] := by
    intro k
    rw [items_getD, hlists, List.map_nil]
  intro s t xs ys
  have hs : s.Sound := sound_getD hall i
  have hx : s.items = xs := hitems i
  have hy : t.items = ys := hitems j
  rw [← hx, ← hy]
  exact ⟨rfl, hs.head_eq, hs.isEmpty_eq, rfl, hs.walk_iff, rfl⟩

/-- A window, and a cell in front of the tail of that window. -/
example :
    let made := segments [] [.ofView ⟨0, ['x', 'é', 'y']⟩ [.advance 2], .tail 0, .cons 'é' 1]
    (made.getD 0 .empty).sameItems (made.getD 2 .empty) = true ∧
      (made.getD 1 .empty).sameItems (made.getD 2 .empty) = false := by
  decide

end ParseFlow.Segment
