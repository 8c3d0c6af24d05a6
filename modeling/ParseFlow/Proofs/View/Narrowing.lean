import ParseFlow.Proofs.View.Place

/-!
# Narrowed views

A view made from a whole source by narrowing it again and again, with any bounds, stays inside the
view before it and begins and ends where items do. `window?` and `slice?` do the same work with every
sum and difference of indexes checked, and with windows that are only handed out between two
boundaries in order; on such a view no check fails.
-/
namespace ParseFlow

variable {α : Type} [Item α]

/-! ## Checked indexes -/

theorem floorBoundary_eq_iff {items : List α} {n : Nat} :
    floorBoundary items n = n ↔ IsBoundary items n := by
  constructor
  · intro h
    have hb := isBoundary_floorBoundary items n
    rwa [h] at hb
  · rintro ⟨before, after, rfl, rfl⟩
    exact floorBoundary_append before after

instance (items : List α) (n : Nat) : Decidable (IsBoundary items n) :=
  decidable_of_iff (floorBoundary items n = n) floorBoundary_eq_iff

/-- The sum of two indexes, unless it is beyond the greatest one. -/
def indexSum? (m n : Nat) : Option Nat := if m + n ≤ maxIndex then some (m + n) else none

/-- The difference of two indexes, unless it is negative. -/
def indexDifference? (m n : Nat) : Option Nat := if n ≤ m then some (m - n) else none

theorem indexSum?_of_le {m n : Nat} (h : m + n ≤ maxIndex) : indexSum? m n = some (m + n) := by
  rw [indexSum?, if_pos h]

theorem indexDifference?_of_le {m n : Nat} (h : n ≤ m) : indexDifference? m n = some (m - n) := by
  rw [indexDifference?, if_pos h]

/-- The items between two positions. There are none to be had unless the positions are in order,
inside the source and at boundaries. -/
def Source.between? (source : Source α) (start stop : Nat) : Option (List α) :=
  if start ≤ stop ∧ stop ≤ source.len ∧ IsBoundary source.items start ∧
      IsBoundary source.items stop then
    some (takeExtent (stop - start) (dropExtent start source.items))
  else none

theorem IsBoundary.le_extent {items : List α} {n : Nat} (h : IsBoundary items n) :
    n ≤ extent items := by
  obtain ⟨before, after, rfl, rfl⟩ := h
  exact extent_mono (List.prefix_append before after)

namespace View

/-- The items in the window. -/
def window? (v : View α) : Option (List α) := do
  let stop ← indexSum? v.offset v.len
  v.source.between? v.offset stop

/-- The part of the window that the range covers. -/
def slice? (v : View α) (range : Range) : Option (View α) := do
  let window ← v.window?
  let start := floorBoundary window (min range.first v.len)
  let stop := max (floorBoundary window (min (range.limit v.len) v.len)) start
  let offset ← indexSum? v.offset start
  let len ← indexDifference? stop start
  return ⟨v.source, offset, len⟩

/-- `part` lies in `whole`, over the same source. -/
structure Within (part whole : View α) : Prop where
  source_eq : part.source = whole.source
  start_ge : whole.offset ≤ part.offset
  stop_le : part.offset + part.len ≤ whole.offset + whole.len

section Checked

variable {v : View α}

theorem Valid.stop_le (h : v.Valid) : v.offset + v.len ≤ v.source.len := h.stop.le_extent

/-- The window of a valid view is handed out. -/
theorem Valid.window?_eq (h : v.Valid) (hs : v.source.len ≤ maxIndex) :
    v.window? = some v.window := by
  have hstop := h.stop_le
  have hle : v.offset ≤ v.offset + v.len := Nat.le_add_right _ _
  have hsum := indexSum?_of_le (Nat.le_trans hstop hs)
  have hbetween : v.source.between? v.offset (v.offset + v.len) = some v.window := by
    rw [Source.between?, if_pos ⟨hle, hstop, h.start, h.stop⟩, Nat.add_sub_cancel_left, window]
  simp only [window?, hsum, Option.bind_eq_bind, Option.bind_some, hbetween]

/-- The start is rounded down before the end is brought up to it, so that neither the new offset nor
the new length leaves the window. -/
theorem slice_within (v : View α) (range : Range) : (v.slice range).Within v := by
  have hstart := floorBoundary_le v.window (min range.first v.len)
  have hstop := floorBoundary_le v.window (min (range.limit v.len) v.len)
  constructor
  · rfl
  · simp only [slice]; omega
  · simp only [slice]; omega

theorem Valid.slice?_eq (h : v.Valid) (hs : v.source.len ≤ maxIndex) (range : Range) :
    v.slice? range = some (v.slice range) := by
  have hin := (v.slice_within range).stop_le
  have hstop := h.stop_le
  simp only [View.slice] at hin
  have hsum : indexSum? v.offset (floorBoundary v.window (min range.first v.len)) =
      some (v.offset + floorBoundary v.window (min range.first v.len)) :=
    indexSum?_of_le (by omega)
  have hdiff := indexDifference?_of_le (Nat.le_max_right
    (floorBoundary v.window (min (range.limit v.len) v.len))
    (floorBoundary v.window (min range.first v.len)))
  simp only [slice?, h.window?_eq hs, hsum, hdiff, Option.bind_eq_bind, Option.bind_some,
    Option.pure_def, View.slice]

end Checked

/-! ## One narrowing after the other -/

/-- A way of narrowing a view. -/
inductive Narrowing where
  | slice (range : Range)
  | sliceFrom (start : Nat)
  | advance (count : Nat)
  deriving DecidableEq, Repr

/-- The range of positions that is kept. -/
def Narrowing.range : Narrowing → Range
  | slice range => range
  | sliceFrom start => .onwards start
  | advance count => .onwards count

def Narrowing.apply : Narrowing → View α → View α
  | slice range, v => v.slice range
  | sliceFrom start, v => v.sliceFrom start
  | advance count, v => v.advance count

/-- Each narrowing comes down to a slice. -/
theorem Narrowing.apply_eq (narrowing : Narrowing) (v : View α) :
    narrowing.apply v = v.slice narrowing.range := by
  cases narrowing <;> rfl

/-- The view after narrowing it step by step. -/
def narrow (v : View α) : List Narrowing → View α
  | [] => v
  | narrowing :: narrowings => (narrowing.apply v).narrow narrowings

/-- The same with every step checked. -/
def narrow? (v : View α) : List Narrowing → Option (View α)
  | [] => some v
  | narrowing :: narrowings => do
    let part ← v.slice? narrowing.range
    part.narrow? narrowings

section Narrowed

variable {v : View α}

theorem Valid.apply (h : v.Valid) (narrowing : Narrowing) : (narrowing.apply v).Valid := by
  rw [narrowing.apply_eq]
  exact h.slice narrowing.range

theorem Valid.narrow (h : v.Valid) (narrowings : List Narrowing) : (v.narrow narrowings).Valid := by
  induction narrowings generalizing v with
  | nil => exact h
  | cons narrowing narrowings ih => exact ih (h.apply narrowing)

theorem source_narrow (v : View α) (narrowings : List Narrowing) :
    (v.narrow narrowings).source = v.source := by
  induction narrowings generalizing v with
  | nil => rfl
  | cons narrowing narrowings ih =>
    have hs : (narrowing.apply v).source = v.source := by
      rw [narrowing.apply_eq]
      rfl
    rw [View.narrow, ih, hs]

/-- The views that narrowing makes of whole sources are the valid ones. -/
theorem valid_iff_narrowed :
    v.Valid ↔ ∃ narrowings, (ofSource v.source).narrow narrowings = v := by
  constructor
  · intro h
    have hle := h.stop_le
    have hstart := floorBoundary_eq_iff.mpr h.start
    have hstop := floorBoundary_eq_iff.mpr h.stop
    have hmin : min v.offset v.source.len = v.offset := by omega
    refine ⟨[.slice (.between v.offset (v.offset + v.len))], ?_⟩
    simp only [View.narrow, Narrowing.apply, View.slice, Range.first_between, Range.limit_between,
      window_ofSource]
    simp only [ofSource, hmin, Nat.min_eq_left hle, hstart, hstop, Nat.zero_add,
      Nat.max_eq_left (Nat.le_add_right v.offset v.len), Nat.add_sub_cancel_left]
  · rintro ⟨narrowings, hv⟩
    rw [← hv]
    exact (valid_ofSource _).narrow narrowings

/-- No check fails on the way. -/
theorem Valid.narrow?_eq (h : v.Valid) (hs : v.source.len ≤ maxIndex)
    (narrowings : List Narrowing) : v.narrow? narrowings = some (v.narrow narrowings) := by
  induction narrowings generalizing v with
  | nil => rfl
  | cons narrowing narrowings ih =>
    have hpart := h.slice?_eq hs narrowing.range
    have hsource := (v.slice_within narrowing.range).source_eq
    rw [← hsource] at hs
    have hrest := ih (h.slice narrowing.range) hs
    simp only [narrow?, hpart, Option.bind_eq_bind, Option.bind_some, hrest, View.narrow,
      narrowing.apply_eq]

end Narrowed

/-- Every view reached from a whole source lies inside the source and between two of its boundaries;
whatever it is narrowed to next lies inside it, and the checks find nothing wrong on the way there,
in reading its window or in narrowing it further. -/
theorem narrow_inside (source : Source α) (hs : source.len ≤ maxIndex)
    (narrowings : List Narrowing) :
    let v := (ofSource source).narrow narrowings
    (ofSource source).narrow? narrowings = some v ∧ v.source = source ∧
      v.offset + v.len ≤ source.len ∧
      IsBoundary source.items v.offset ∧ IsBoundary source.items (v.offset + v.len) ∧
      v.window? = some v.window ∧
      ∀ next : Narrowing, (next.apply v).Within v ∧ v.slice? next.range = some (next.apply v) := by
  intro v
  have hv : v.Valid := (valid_ofSource source).narrow narrowings
  have hsource : v.source = source := source_narrow (ofSource source) narrowings
  have hsv : v.source.len ≤ maxIndex := by rwa [hsource]
  have hstop := hv.stop_le
  have hfirst := hv.start
  have hlast := hv.stop
  rw [hsource] at hstop hfirst hlast
  refine ⟨(valid_ofSource source).narrow?_eq hs narrowings, hsource, hstop, hfirst, hlast,
    hv.window?_eq hsv, fun next => ?_⟩
  rw [next.apply_eq]
  exact ⟨v.slice_within next.range, hv.slice?_eq hsv next.range⟩

/-- A slice from inside a character to the greatest index, and in it an inverted one, whose end
would come before its start and whose bounds both lie inside characters. -/
theorem narrow_inside_inverted :
    let source : Source Char := ⟨0, ['a', 'é', '€', 'z']⟩
    let narrowings : List Narrowing :=
      [.slice ⟨.included 2, .included maxIndex⟩, .slice ⟨.excluded 3, .included 0⟩]
    let v := (ofSource source).narrow narrowings
    source.len ≤ maxIndex ∧ (ofSource source).narrow? narrowings = some v ∧
      v.offset = 3 ∧ v.len = 0 ∧ v.window? = some [] := by
  intro source narrowings v
  have hs : source.len ≤ maxIndex := by decide
  obtain ⟨hall, -, -, -, -, hwindow, -⟩ := narrow_inside source hs narrowings
  have hnone : v.window = [] := by decide
  refine ⟨hs, hall, by decide, by decide, ?_⟩
  rw [hwindow]
  exact congrArg some hnone

end View
end ParseFlow
