import Mathlib.Order.Bounds.Defs
import ParseFlow.Proofs.View.Place

/-!
# Slices of slices

The ends of a slice are boundaries of the window it is cut from. Rounding a position down inside the
slice therefore finds the boundary that rounding finds in the whole window, and slicing twice comes
to one slice with both ends moved into the whole and clamped to the part.
-/
namespace ParseFlow

variable {α : Type} [Item α]

/-! ## Rounding down -/

/-- Rounding behind some items rounds among the others. -/
theorem floorBoundary_append_add (xs ys : List α) (n : Nat) :
    floorBoundary (xs ++ ys) (extent xs + n) = extent xs + floorBoundary ys n := by
  rw [floorBoundary, takeExtent_append_add, extent_append, floorBoundary]

/-- Items past the position make no difference. -/
theorem takeExtent_append_of_le {xs : List α} {n : Nat} (h : n ≤ extent xs) (ys : List α) :
    takeExtent n (xs ++ ys) = takeExtent n xs := by
  induction xs generalizing n with
  | nil =>
    obtain rfl : n = 0 := Nat.le_zero.mp h
    rw [List.nil_append, takeExtent_zero, takeExtent_zero]
  | cons x xs ih =>
    rw [extent_cons] at h
    rw [List.cons_append, takeExtent, takeExtent, ih (by omega)]

/-- Rounding finds the greatest boundary that is not past the position. -/
theorem isGreatest_floorBoundary (items : List α) (n : Nat) :
    IsGreatest {m | IsBoundary items m ∧ m ≤ n} (floorBoundary items n) := by
  refine ⟨⟨isBoundary_floorBoundary items n, floorBoundary_le items n⟩, ?_⟩
  rintro m ⟨⟨before, after, rfl, rfl⟩, hle⟩
  obtain ⟨k, rfl⟩ := Nat.exists_eq_add_of_le hle
  rw [floorBoundary_append_add]
  exact Nat.le_add_right _ _

/-- Rounding in a part, moved into the whole. -/
theorem floorBoundary_part (before inside after : List α) (n : Nat) :
    floorBoundary (before ++ (inside ++ after))
        (min (extent before + n) (extent before + extent inside)) =
      extent before + floorBoundary inside (min n (extent inside)) := by
  rw [Nat.add_min_add_left, floorBoundary_append_add, floorBoundary,
    takeExtent_append_of_le (Nat.min_le_right _ _), floorBoundary]

namespace View

variable {v : View α}

/-! ## Slicing twice -/

/-- A slice of the part is a slice of the whole, with both ends moved and clamped to the part. -/
theorem Valid.slice_slice (h : v.Valid) (first second : Range) {p q : Nat}
    (hp : (v.slice first).offset = v.offset + p)
    (hq : (v.slice first).offset + (v.slice first).len = v.offset + q) :
    (v.slice first).slice second =
      v.slice (.between (min (p + second.first) q) (min (p + second.limit (q - p)) q)) := by
  obtain ⟨hpart, before, after, hw, ho⟩ := h.slice_spec first
  have hl := hpart.extent_window
  have hlen := h.extent_window
  rw [hw, extent_append, extent_append, hl] at hlen
  obtain rfl : p = extent before := by omega
  obtain rfl : q = extent before + (v.slice first).len := by omega
  -- Once a position is clamped to the part, the whole window and the part round it alike.
  have hround : ∀ n, floorBoundary v.window
      (min (min (extent before + n) (extent before + (v.slice first).len)) v.len) =
        extent before + floorBoundary (v.slice first).window (min n (v.slice first).len) := by
    intro n
    have hmoved := floorBoundary_part before (v.slice first).window after n
    rw [← hw, hl] at hmoved
    rw [Nat.min_eq_left (by omega), hmoved]
  have hstart := hround second.first
  have hstop := hround (second.limit (v.slice first).len)
  have hsource : (v.slice first).source = v.source := rfl
  rw [Nat.add_sub_cancel_left]
  generalize v.slice first = part at *
  simp only [View.slice, Range.first_between, Range.limit_between, View.mk.injEq]
  refine ⟨hsource, ?_, ?_⟩
  · omega
  · omega

/-- The second count goes on from where the first one led. -/
theorem Valid.advance_advance (h : v.Valid) (a b : Nat) :
    (v.advance a).advance b = v.advance (floorBoundary v.window a + b) := by
  have hcut := takeExtent_append_dropExtent a v.window
  obtain ⟨hvalid, hw⟩ := h.behind_spec hcut.symm
  have htake := takeExtent_append_add (takeExtent a v.window) (dropExtent a v.window) b
  rw [hcut] at htake
  rw [h.advance_eq_behind a, hvalid.advance_eq_behind, hw, h.advance_eq_behind, floorBoundary, htake,
    behind_append]

/-- Advancing leads to the greatest boundary that is not past the position. -/
theorem Valid.offset_advance (h : v.Valid) (n : Nat) :
    (v.advance n).offset = v.offset + floorBoundary v.window n := by
  rw [h.advance_eq_behind]
  rfl

theorem Valid.advance_isSuffix (h : v.Valid) (n : Nat) : (v.advance n).IsSuffix v := by
  rw [h.advance_eq_behind]
  exact h.isSuffix_behind ⟨_, takeExtent_append_dropExtent n v.window⟩

/-- Slices compose: a range of a slice is the range moved into the whole view and clamped to the
slice, whatever its ends. So two advances lead to the greatest boundary that is not past the second
count from where the first one led, and the end of the view stays its end. -/
theorem slices_compose {v : View α} (hv : v.Valid) (first : Range) {p q : Nat}
    (hp : (v.slice first).offset = v.offset + p)
    (hq : (v.slice first).offset + (v.slice first).len = v.offset + q) :
    (∀ second, (v.slice first).slice second =
      v.slice (.between (min (p + second.first) q) (min (p + second.limit (q - p)) q))) ∧
    (∀ c d, (v.slice first).slice (.between c d) =
      v.slice (.between (min (p + c) q) (min (p + d) q))) ∧
    ∀ a b, ((v.advance a).advance b).IsSuffix v ∧
      ∃ near far, (v.advance a).offset = v.offset + near ∧
        ((v.advance a).advance b).offset = v.offset + far ∧
        IsGreatest {m | IsBoundary v.window m ∧ m ≤ near + b} far := by
  refine ⟨fun second => hv.slice_slice first second hp hq,
    fun c d => hv.slice_slice first (.between c d) hp hq, fun a b => ?_⟩
  have htwice := hv.advance_advance a b
  constructor
  · rw [htwice]
    exact hv.advance_isSuffix _
  · refine ⟨floorBoundary v.window a, floorBoundary v.window (floorBoundary v.window a + b),
      hv.offset_advance a, ?_, isGreatest_floorBoundary _ _⟩
    rw [htwice, hv.offset_advance]

/-- Every bound lies inside a character or past the end, and the inner range is inverted. -/
theorem slices_compose_inside_characters :
    let v : View Char := ⟨⟨0, ['x', 'é', '€', 'é', 'z']⟩, 1, 8⟩
    let first : Range := .between 3 9
    v.Valid ∧ (v.slice first).offset = v.offset + 2 ∧
      (v.slice first).offset + (v.slice first).len = v.offset + 8 ∧
      (v.slice first).slice (.between 4 1) = v.slice (.between 6 3) ∧
      ((v.slice first).slice (.between 4 1)).offset = 6 := by
  intro v first
  have hv : v.Valid := by
    constructor
    · exact ⟨['x'], ['é', '€', 'é', 'z'], rfl, by decide⟩
    · exact ⟨['x', 'é', '€', 'é', 'z'], [], rfl, by decide⟩
  have hp : (v.slice first).offset = v.offset + 2 := by decide
  have hq : (v.slice first).offset + (v.slice first).len = v.offset + 8 := by decide
  obtain ⟨-, hall, -⟩ := slices_compose hv first hp hq
  exact ⟨hv, hp, hq, hall 4 1, by decide⟩

end View
end ParseFlow
