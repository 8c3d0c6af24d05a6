/-!
# Items to go through

What is gone through item by item: a list, or a sequence that never ends.
-/
namespace ParseFlow.Pipeline

inductive Items (α : Type) where
  | listed (items : List α)
  /-- An item for every index. -/
  | endless (item : Nat → α)

instance {α : Type} : Coe (List α) (Items α) := ⟨.listed⟩

namespace Items
variable {α : Type}

/-- The next item, unless the end has come. -/
def head? : Items α → Option α
  | listed items => items.head?
  | endless item => some (item 0)

/-- The items after the next one. -/
def tail : Items α → Items α
  | listed items => listed items.tail
  | endless item => endless fun i => item (i + 1)

/-- All items, if there is an end to them. -/
def list? : Items α → Option (List α)
  | listed items => some items
  | endless _ => none

end Items

/-- Types whose values can be gone through. -/
class IntoItems (ι : Type) (α : outParam Type) where
  items : ι → Items α

variable {α : Type}

instance : IntoItems (Items α) α := ⟨id⟩

instance : IntoItems (List α) α := ⟨.listed⟩

end ParseFlow.Pipeline
