import ParseFlow.View.Basic

/-!
# Places in a view

A view is valid when its window begins and ends where items of the source do. Such a view cuts the
source into what lies before the window, the window and what lies after it, and moving on by the
extent of items at the front of the window leaves exactly the other items in it.
-/
namespace ParseFlow

variable {α : Type} [Item α]

/-! ## Boundaries -/

/-- Position `n` is one where an item begins or the items end. -/
def IsBoundary (items : List α) (n : Nat) : Prop :=
  ∃ before after, items = before ++ after ∧ extent before = n

theorem extent_eq_zero {xs : List α} : extent xs = 0 ↔ xs = [] := by
  cases xs with
  | nil => simp
  | cons x xs =>
    have hw := Item.width_pos x
    simp only [extent_cons, reduceCtorEq, iff_false]
    omega

theorem isBoundary_append (xs ys : List α) : IsBoundary (xs ++ ys) (extent xs) := ⟨xs, ys, rfl, rfl⟩

theorem takeExtent_zero (xs : List α) : takeExtent 0 xs = [] := by
  cases xs with
  | nil => rfl
  | cons x xs =>
    have hw := Item.width_pos x
    rw [takeExtent, if_neg (by omega)]

theorem dropExtent_zero (xs : List α) : dropExtent 0 xs = xs := by
  cases xs with
  | nil => rfl
  | cons x xs =>
    have hw := Item.width_pos x
    rw [dropExtent, if_neg (by omega)]

/-- Taking past the end of some first items takes these, and of the others what is left to take. -/
theorem takeExtent_append_add (xs ys : List α) (n : Nat) :
    takeExtent (extent xs + n) (xs ++ ys) = xs ++ takeExtent n ys := by
  induction xs with
  | nil => rw [extent_nil, Nat.zero_add, List.nil_append, List.nil_append]
  | cons x xs ih =>
    have hle : width x ≤ extent (x :: xs) + n := by rw [extent_cons]; omega
    have hsub : extent (x :: xs) + n - width x = extent xs + n := by rw [extent_cons]; omega
    rw [List.cons_append, takeExtent, if_pos hle, hsub, ih, List.cons_append]

theorem dropExtent_append_add (xs ys : List α) (n : Nat) :
    dropExtent (extent xs + n) (xs ++ ys) = dropExtent n ys := by
  induction xs with
  | nil => rw [extent_nil, Nat.zero_add, List.nil_append]
  | cons x xs ih =>
    have hle : width x ≤ extent (x :: xs) + n := by rw [extent_cons]; omega
    have hsub : extent (x :: xs) + n - width x = extent xs + n := by rw [extent_cons]; omega
    rw [List.cons_append, dropExtent, if_pos hle, hsub, ih]

/-- Taking up to the end of some first items takes these and nothing more. -/
theorem takeExtent_append (xs ys : List α) : takeExtent (extent xs) (xs ++ ys) = xs := by
  have h := takeExtent_append_add xs ys 0
  rwa [Nat.add_zero, takeExtent_zero, List.append_nil] at h

theorem dropExtent_append (xs ys : List α) : dropExtent (extent xs) (xs ++ ys) = ys := by
  have h := dropExtent_append_add xs ys 0
  rwa [Nat.add_zero, dropExtent_zero] at h

/-- Nothing is left behind the end. -/
theorem dropExtent_of_le {xs : List α} {n : Nat} (h : extent xs ≤ n) : dropExtent n xs = [] := by
  obtain ⟨k, rfl⟩ := Nat.exists_eq_add_of_le h
  have hd := dropExtent_append_add xs [] k
  rwa [List.append_nil] at hd

theorem takeExtent_of_le {xs : List α} {n : Nat} (h : extent xs ≤ n) : takeExtent n xs = xs := by
  have ha := takeExtent_append_dropExtent n xs
  rwa [dropExtent_of_le h, List.append_nil] at ha

theorem floorBoundary_append (xs ys : List α) :
    floorBoundary (xs ++ ys) (extent xs) = extent xs := by
  rw [floorBoundary, takeExtent_append]

theorem floorBoundary_extent (xs : List α) : floorBoundary xs (extent xs) = extent xs := by
  rw [floorBoundary, takeExtent_of_le (Nat.le_refl _)]

/-- Positions past the end count as the end. -/
theorem takeExtent_min (xs : List α) (n : Nat) :
    takeExtent (min n (extent xs)) xs = takeExtent n xs := by
  rcases Nat.le_total n (extent xs) with hle | hle
  · rw [Nat.min_eq_left hle]
  · rw [Nat.min_eq_right hle, takeExtent_of_le (Nat.le_refl _), takeExtent_of_le hle]

/-- Rounding down finds a boundary. -/
theorem isBoundary_floorBoundary (xs : List α) (n : Nat) : IsBoundary xs (floorBoundary xs n) := by
  have h := isBoundary_append (takeExtent n xs) (dropExtent n xs)
  rwa [takeExtent_append_dropExtent] at h

theorem extent_mono {xs ys : List α} (h : xs <+: ys) : extent xs ≤ extent ys := by
  obtain ⟨others, rfl⟩ := h
  rw [extent_append]
  exact Nat.le_add_right _ _

/-- Of two beginnings the one that reaches less far begins the other. -/
theorem prefix_of_extent_le {xs ys items : List α} (hx : xs <+: items) (hy : ys <+: items)
    (hle : extent xs ≤ extent ys) : xs <+: ys := by
  rcases List.prefix_or_prefix_of_prefix hx hy with hxy | ⟨gap, rfl⟩
  · exact hxy
  · rw [extent_append] at hle
    have hz : extent gap = 0 := by omega
    exact ⟨[], by rw [extent_eq_zero.mp hz, List.append_nil, List.append_nil]⟩

/-- Two boundaries cut the items in three. -/
theorem IsBoundary.cut {items : List α} {m n : Nat} (hm : IsBoundary items m)
    (hn : IsBoundary items n) (hle : m ≤ n) :
    ∃ before inside after, items = before ++ (inside ++ after) ∧ extent before = m ∧
      extent before + extent inside = n := by
  obtain ⟨before, rest, hs, rfl⟩ := hm
  obtain ⟨upTo, after, hs', rfl⟩ := hn
  obtain ⟨inside, rfl⟩ := prefix_of_extent_le ⟨rest, hs.symm⟩ ⟨after, hs'.symm⟩ hle
  refine ⟨before, inside, after, ?_, rfl, (extent_append before inside).symm⟩
  rw [hs', List.append_assoc]

theorem IsBoundary.max {items : List α} {m n : Nat} (hm : IsBoundary items m)
    (hn : IsBoundary items n) : IsBoundary items (max m n) := by
  rcases Nat.le_total m n with hle | hle
  · rwa [Nat.max_eq_right hle]
  · rwa [Nat.max_eq_left hle]

theorem extent_chars (cs : List Char) : extent cs = (String.ofList cs).utf8ByteSize := by
  induction cs with
  | nil => rfl
  | cons c cs ih =>
    rw [extent_cons, ih, String.ofList_cons, String.utf8ByteSize_append,
      String.utf8ByteSize_singleton]
    rfl

/-- The boundaries of a text are the positions between the UTF-8 forms of its characters. -/
theorem isBoundary_iff_isValid (s : String) (n : Nat) :
    IsBoundary s.toList n ↔ String.Pos.Raw.IsValid s ⟨n⟩ := by
  rw [String.Pos.Raw.isValid_iff_exists_append]
  constructor
  · rintro ⟨before, after, hs, hn⟩
    refine ⟨String.ofList before, String.ofList after, ?_, ?_⟩
    · rw [← String.ofList_append, ← hs, String.ofList_toList]
    · rw [← hn, extent_chars]; rfl
  · rintro ⟨before, after, hs, hn⟩
    refine ⟨before.toList, after.toList, ?_, ?_⟩
    · rw [hs, String.toList_append]
    · rw [extent_chars, String.ofList_toList]
      exact (congrArg String.Pos.Raw.byteIdx hn).symm

namespace View

/-! ## Valid views -/

/-- The window begins and ends where items of the source do. -/
structure Valid (v : View α) : Prop where
  start : IsBoundary v.source.items v.offset
  stop : IsBoundary v.source.items (v.offset + v.len)

/-- Items cut into three make a valid view of the middle part. -/
theorem window_of_split {v : View α} {before inside after : List α}
    (hs : v.source.items = before ++ (inside ++ after)) (hb : extent before = v.offset)
    (hl : extent inside = v.len) : v.window = inside := by
  rw [window, hs, ← hb, ← hl, dropExtent_append, takeExtent_append]

theorem valid_of_split {v : View α} {before inside after : List α}
    (hs : v.source.items = before ++ (inside ++ after)) (hb : extent before = v.offset)
    (hl : extent inside = v.len) : v.Valid := by
  constructor
  · exact ⟨before, inside ++ after, hs, hb⟩
  · refine ⟨before ++ inside, after, ?_, ?_⟩
    · rw [hs, List.append_assoc]
    · rw [extent_append, hb, hl]

/-- A valid view cuts its source at the two ends of the window. -/
theorem Valid.split {v : View α} (h : v.Valid) :
    ∃ before after, v.source.items = before ++ (v.window ++ after) ∧
      extent before = v.offset ∧ extent v.window = v.len := by
  obtain ⟨before, inside, after, hs, hb, hstop⟩ := h.start.cut h.stop (Nat.le_add_right _ _)
  have hl : extent inside = v.len := by omega
  have hw := window_of_split hs hb hl
  refine ⟨before, after, ?_, hb, ?_⟩
  · rw [hw, hs]
  · rw [hw, hl]

theorem Valid.extent_window {v : View α} (h : v.Valid) : extent v.window = v.len := by
  obtain ⟨_, _, _, _, hl⟩ := h.split
  exact hl

theorem items_ofSource (source : Source α) :
    (ofSource source).source.items = [] ++ (source.items ++ []) := by
  rw [List.nil_append, List.append_nil, ofSource]

theorem valid_ofSource (source : Source α) : (ofSource source).Valid :=
  valid_of_split (items_ofSource source) rfl rfl

theorem window_ofSource (source : Source α) : (ofSource source).window = source.items :=
  window_of_split (items_ofSource source) rfl rfl

/-- A slice is valid and holds what its ends cut out of the window. -/
theorem Valid.slice_spec {v : View α} (h : v.Valid) (range : Range) :
    (v.slice range).Valid ∧ ∃ first last,
      v.window = first ++ ((v.slice range).window ++ last) ∧
        (v.slice range).offset = v.offset + extent first := by
  let start := floorBoundary v.window (min range.first v.len)
  let limit := floorBoundary v.window (min (range.limit v.len) v.len)
  have hstart : IsBoundary v.window start := isBoundary_floorBoundary _ _
  have hstop : IsBoundary v.window (max limit start) := (isBoundary_floorBoundary _ _).max hstart
  obtain ⟨first, inside, last, hw, hf, hi⟩ := hstart.cut hstop (Nat.le_max_right _ _)
  obtain ⟨before, after, hs, hb, -⟩ := h.split
  have hsource : (v.slice range).source.items =
      (before ++ first) ++ (inside ++ (last ++ after)) := by
    show v.source.items = _
    rw [hs, hw, List.append_assoc, List.append_assoc, List.append_assoc]
  have hoffset : extent (before ++ first) = (v.slice range).offset := by
    rw [extent_append, hb, hf]
    rfl
  have hlen : extent inside = (v.slice range).len := by
    show _ = max limit start - start
    omega
  refine ⟨valid_of_split hsource hoffset hlen, first, last, ?_, ?_⟩
  · rw [window_of_split hsource hoffset hlen, hw]
  · rw [← hoffset, extent_append, hb]

/-- Narrowing keeps a view valid, so that every view made from a whole source is. -/
theorem Valid.slice {v : View α} (h : v.Valid) (range : Range) : (v.slice range).Valid :=
  (h.slice_spec range).1

theorem Valid.isEmpty_iff {v : View α} (h : v.Valid) : v.isEmpty = true ↔ v.window = [] := by
  rw [isEmpty, beq_iff_eq, ← h.extent_window, extent_eq_zero]

/-! ## Moving on -/

/-- What is left of a view behind items at the front of its window. -/
def behind (v : View α) (items : List α) : View α :=
  ⟨v.source, v.offset + extent items, v.len - extent items⟩

theorem behind_nil (v : View α) : v.behind [] = v := rfl

theorem behind_append (v : View α) (xs ys : List α) :
    v.behind (xs ++ ys) = (v.behind xs).behind ys := by
  simp only [behind, extent_append, Nat.add_assoc, Nat.sub_sub]

section Behind

variable {v : View α} {xs left : List α}

/-- Behind the items at the front of a window the view is valid and holds the others. -/
theorem Valid.behind_spec (h : v.Valid) (hw : v.window = xs ++ left) :
    (v.behind xs).Valid ∧ (v.behind xs).window = left := by
  obtain ⟨before, after, hs, hb, hl⟩ := h.split
  rw [hw] at hs hl
  have hs' : (v.behind xs).source.items = (before ++ xs) ++ (left ++ after) := by
    simp only [behind, hs, List.append_assoc]
  have hb' : extent (before ++ xs) = (v.behind xs).offset := by
    rw [extent_append, hb]; rfl
  have hl' : extent left = (v.behind xs).len := by
    rw [extent_append] at hl
    simp only [behind]
    omega
  exact ⟨valid_of_split hs' hb' hl', window_of_split hs' hb' hl'⟩

/-- Advancing moves on behind the items that end at or before the position. -/
theorem Valid.advance_eq_behind (h : v.Valid) (n : Nat) :
    v.advance n = v.behind (takeExtent n v.window) := by
  have hl := h.extent_window
  have hstart : floorBoundary v.window (min n v.len) = extent (takeExtent n v.window) := by
    rw [← hl, floorBoundary, takeExtent_min]
  have hstop : floorBoundary v.window v.len = v.len := by
    rw [← hl, floorBoundary_extent]
  have hle : extent (takeExtent n v.window) ≤ v.len := by
    rw [← hstart, ← hl]
    exact floorBoundary_le_extent _ _
  simp only [advance, sliceFrom, View.slice, Range.onwards, Range.first, Range.limit, behind,
    Nat.min_self, hstart, hstop, Nat.max_eq_left hle]

/-- Advancing by the extent of items at the front of the window moves on behind them. -/
theorem Valid.advance_extent (h : v.Valid) (hw : v.window = xs ++ left) :
    v.advance (extent xs) = v.behind xs := by
  rw [h.advance_eq_behind, hw, takeExtent_append]

/-- Advancing by the width of the first item moves on behind it. -/
theorem Valid.advance_width {x : α} (h : v.Valid) (hw : v.window = x :: left) :
    v.advance (width x) = v.behind [x] := by
  have hx : v.window = [x] ++ left := hw
  rw [← h.advance_extent hx]
  rfl

theorem peek?_cons {x : α} (hw : v.window = x :: left) : v.peek? = some (x, width x) := by
  rw [peek?, hw, itemAt?]

theorem peek?_nil (hw : v.window = []) : v.peek? = none := by
  rw [peek?, hw, itemAt?]

/-- The part of `v` that lies before `rest`. -/
def upTo (v rest : View α) : View α := ⟨v.source, v.offset, rest.offset - v.offset⟩

/-- What lies before the view behind some items is these items. -/
theorem Valid.window_upTo (h : v.Valid) (hw : v.window = xs ++ left) :
    (v.upTo (v.behind xs)).window = xs := by
  obtain ⟨before, after, hs, hb, -⟩ := h.split
  rw [hw, List.append_assoc] at hs
  have hl : extent xs = (v.upTo (v.behind xs)).len := by
    simp only [upTo, behind, Nat.add_sub_cancel_left]
  exact window_of_split hs hb hl

end Behind

/-- `rest` is the end of `input` from some item on. -/
structure IsSuffix (rest input : View α) : Prop where
  source_eq : rest.source = input.source
  start_ge : input.offset ≤ rest.offset
  start_le : rest.offset ≤ input.offset + input.len
  stop_eq : rest.offset + rest.len = input.offset + input.len
  boundary : IsBoundary rest.source.items rest.offset

section Suffix

variable {v w rest : View α}

theorem Valid.isSuffix_refl (h : v.Valid) : v.IsSuffix v := by
  constructor
  · rfl
  · exact Nat.le_refl _
  · exact Nat.le_add_right _ _
  · rfl
  · exact h.start

theorem IsSuffix.trans (h : rest.IsSuffix w) (hw : w.IsSuffix v) : rest.IsSuffix v := by
  have hle := h.start_le
  constructor
  · exact h.source_eq.trans hw.source_eq
  · exact Nat.le_trans hw.start_ge h.start_ge
  · rwa [hw.stop_eq] at hle
  · exact h.stop_eq.trans hw.stop_eq
  · exact h.boundary

theorem IsSuffix.valid (h : w.IsSuffix v) (hv : v.Valid) : w.Valid := by
  constructor
  · exact h.boundary
  · rw [h.source_eq, h.stop_eq]
    exact hv.stop

/-- A suffix that begins elsewhere is shorter. -/
theorem IsSuffix.len_lt (h : w.IsSuffix v) (ho : w.offset ≠ v.offset) : w.len < v.len := by
  have hstart := h.start_ge
  have hstop := h.stop_eq
  omega

end Suffix

theorem Valid.isSuffix_behind {v : View α} {passed : List α} (h : v.Valid)
    (hp : passed <+: v.window) : (v.behind passed).IsSuffix v := by
  obtain ⟨left, hw⟩ := hp
  have hl := h.extent_window
  rw [← hw, extent_append] at hl
  have hv := (h.behind_spec hw.symm).1
  constructor
  · rfl
  · simp only [behind]; omega
  · simp only [behind]; omega
  · simp only [behind]; omega
  · exact hv.start

end View
end ParseFlow
