import ParseFlow.View.Basic

/-!
# Segments

An immutable list built from windows, which are walked in place, and from items put in front one by
one. A segment that is still the whole of its source gives that source back instead of a copy.
-/
namespace ParseFlow

open Text

inductive Segment (α : Type) where
  | empty
  | cons (head : α) (tail : Segment α)
  | window (view : View α)

/-- The head of an empty segment was asked for. -/
inductive SegmentError where
  | emptySegment
  deriving DecidableEq, Repr

def SegmentError.message : SegmentError → String
  | emptySegment => "head of empty segment"

/-- Storage handed out by a segment: an existing source or items copied afresh. -/
inductive Storage (α : Type) where
  | shared (source : Source α)
  | copied (items : List α)

def Storage.items {α : Type} : Storage α → List α
  | shared source => source.items
  | copied items => items

namespace Segment
variable {α : Type} [Item α]

/-- The items of a view. -/
def ofView (view : View α) : Segment α := if view.isEmpty then empty else window view

def isEmpty : Segment α → Bool
  | empty => true
  | cons _ _ => false
  | window view => view.isEmpty

def head : Segment α → Except SegmentError α
  | empty => .error .emptySegment
  | cons item _ => .ok item
  | window view =>
    match view.at? 0 with
    | some item => .ok item
    | none => .error .emptySegment

/-- All but the first item; nothing of an empty segment. -/
def tail : Segment α → Segment α
  | empty => empty
  | cons _ rest => rest
  | window view =>
    match view.peek? with
    | some (_, w) => ofView (view.advance w)
    | none => empty

/-- The items from the head on. -/
def items : Segment α → List α
  | empty => []
  | cons item rest => item :: rest.items
  | window view => view.window

/-- The number of items. -/
def len (segment : Segment α) : Nat := segment.items.length

/-- A source holding the items: the backing one if the segment is all of it. -/
def toStorage : Segment α → Storage α
  | window view =>
    if view.offset = 0 ∧ view.len = view.source.len then .shared view.source
    else .copied view.window
  | segment => .copied segment.items

/-- Equality of the items, however they are held. -/
def sameItems [BEq α] (s t : Segment α) : Bool := s.items == t.items

instance [Rendered α] : Rendered (Segment α) where
  render segment := called "segment" [render segment.items]

end Segment
end ParseFlow
