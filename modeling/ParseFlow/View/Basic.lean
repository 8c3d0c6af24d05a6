import ParseFlow.View.Source

/-!
# Views

A view is a window over a source, given by an offset and a length. Narrowing a view keeps its source
and copies nothing; bounds are clamped to the window and rounded down to the start of an item.
-/
namespace ParseFlow

open Text

structure View (α : Type) where
  source : Source α
  offset : Nat
  len : Nat

/-- One end of a range of indexes. -/
inductive Bound where
  | included (index : Nat)
  | excluded (index : Nat)
  | unbounded
  deriving DecidableEq, Repr

/-- A range of indexes. -/
structure Range where
  start : Bound
  stop : Bound
  deriving DecidableEq, Repr

namespace Range

/-- From `index` to the end. -/
def onwards (index : Nat) : Range := ⟨.included index, .unbounded⟩

/-- Up to and not including `index`. -/
def before (index : Nat) : Range := ⟨.unbounded, .excluded index⟩

/-- From `start` up to and not including `stop`. -/
def between (start stop : Nat) : Range := ⟨.included start, .excluded stop⟩

/-- The first index of the range. -/
def first (range : Range) : Nat :=
  match range.start with
  | .included index => index
  | .excluded index => indexAfter index
  | .unbounded => 0

/-- The index just past the range in a window of `len` positions. -/
def limit (range : Range) (len : Nat) : Nat :=
  match range.stop with
  | .included index => indexAfter index
  | .excluded index => index
  | .unbounded => len

@[simp] theorem first_between (start stop : Nat) : (between start stop).first = start := rfl

@[simp] theorem limit_between (start stop len : Nat) : (between start stop).limit len = stop := rfl

end Range

namespace View
variable {α : Type} [Item α]

/-- The view of a whole source. -/
def ofSource (source : Source α) : View α := ⟨source, 0, source.len⟩

def isEmpty (v : View α) : Bool := v.len == 0

/-- The items in the window. -/
def window (v : View α) : List α := takeExtent v.len (dropExtent v.offset v.source.items)

/-- The item that holds position `index` of the window. -/
def at? (v : View α) (index : Nat) : Option α :=
  if v.len ≤ index then none
  else (itemAt? v.window (floorBoundary v.window index)).map (·.1)

/-- The first item of the window with its width. -/
def peek? (v : View α) : Option (α × Nat) := itemAt? v.window 0

/-- The items read from the start of the window to its end. -/
def iter (v : View α) : List α := readFrom v.window 0

/-- The part of the window that the range covers; empty at its start if the range is inverted. -/
def slice (v : View α) (range : Range) : View α :=
  let window := v.window
  let start := floorBoundary window (min range.first v.len)
  let stop := max (floorBoundary window (min (range.limit v.len) v.len)) start
  ⟨v.source, v.offset + start, stop - start⟩

/-- The window from `start` on. -/
def sliceFrom (v : View α) (start : Nat) : View α := v.slice (.onwards start)

/-- The window without its first `count` positions. -/
def advance (v : View α) (count : Nat) : View α := v.sliceFrom count

/-- Equality of contents, wherever they come from. -/
def sameContents [BEq α] (v w : View α) : Bool := v.window == w.window

def display (v : View α) : String := renderWindow v.window

instance : Rendered (View α) where
  render v := withFields "View"
    [("offset", render v.offset), ("len", render v.len), ("window", renderWindow v.window)]

end View

namespace View

/-- The window of a text view as a string. -/
def text (v : View Char) : String := String.ofList v.window

end View
end ParseFlow
