import ParseFlow.Value.Basic

/-!
# Sources and positions in them

A source is a list of items, each spanning one or more index positions: a character spans the bytes
of its UTF-8 form, a dynamic value one position. Positions inside an item are rounded down to its
start.
-/
namespace ParseFlow

open Text

/-- Types of items: how far an item reaches and how a window of items prints. -/
class Item (α : Type) where
  width : α → Nat
  width_pos : ∀ a, 0 < width a
  renderWindow : List α → String

export Item (width width_pos renderWindow)

instance : Item Char where
  width := Char.utf8Size
  width_pos := Char.utf8Size_pos
  renderWindow items := quoted (String.ofList items)

instance : Item Value where
  width _ := 1
  width_pos _ := Nat.one_pos
  renderWindow := render

/-- Backing storage: items under a name that tells it from every other source. -/
structure Source (α : Type) where
  id : Nat
  items : List α
  deriving DecidableEq

variable {α : Type} [Item α]

/-- The number of index positions that the items span. -/
def extent : List α → Nat
  | [] => 0
  | x :: xs => width x + extent xs

/-- The items that end at or before position `n`. -/
def takeExtent : Nat → List α → List α
  | _, [] => []
  | n, x :: xs => if width x ≤ n then x :: takeExtent (n - width x) xs else []

/-- The items from the one that holds position `n` on. -/
def dropExtent : Nat → List α → List α
  | _, [] => []
  | n, x :: xs => if width x ≤ n then dropExtent (n - width x) xs else x :: xs

/-- The largest position at or before `n` where an item begins or the items end. -/
def floorBoundary (items : List α) (n : Nat) : Nat := extent (takeExtent n items)

/-- The item that begins at position `n`, with its width. -/
def itemAt? : List α → Nat → Option (α × Nat)
  | [], _ => none
  | x :: _, 0 => some (x, width x)
  | x :: xs, n + 1 => if width x ≤ n + 1 then itemAt? xs (n + 1 - width x) else none

theorem itemAt?_inside {items : List α} {n w : Nat} {x : α} (h : itemAt? items n = some (x, w)) :
    0 < w ∧ n + w ≤ extent items := by
  induction items generalizing n with
  | nil => cases h
  | cons y items ih =>
    rw [extent]
    cases n with
    | zero =>
      have hw := Item.width_pos y
      cases h
      omega
    | succ n =>
      rw [itemAt?, Option.ite_none_right_eq_some] at h
      have hi := ih h.2
      omega

/-- The items from position `n` on, each found where the one before it ends. -/
def readFrom (items : List α) (n : Nat) : List α :=
  match _h : itemAt? items n with
  | some (x, w) => x :: readFrom items (n + w)
  | none => []
termination_by extent items - n
decreasing_by
  have hi := itemAt?_inside _h
  omega

theorem readFrom_of_none {items : List α} {n : Nat} (h : itemAt? items n = none) :
    readFrom items n = [] := by
  rw [readFrom]
  split
  · next h' => rw [h] at h'; cases h'
  · rfl

theorem readFrom_of_some {items : List α} {n w : Nat} {x : α} (h : itemAt? items n = some (x, w)) :
    readFrom items n = x :: readFrom items (n + w) := by
  rw [readFrom]
  split
  · next h' => rw [h] at h'; cases h'; rfl
  · next h' => rw [h] at h'; cases h'

/-- The number of index positions in the source. -/
def Source.len (source : Source α) : Nat := extent source.items

/-- The largest index there is; beyond it indexes saturate. -/
def maxIndex : Nat := UInt64.size - 1

/-- The index after `n`. -/
def indexAfter (n : Nat) : Nat := min (n + 1) maxIndex

@[simp] theorem extent_nil : extent ([] : List α) = 0 := rfl

@[simp] theorem extent_cons (x : α) (xs : List α) : extent (x :: xs) = width x + extent xs := rfl

theorem extent_append (xs ys : List α) : extent (xs ++ ys) = extent xs + extent ys := by
  induction xs with
  | nil => simp
  | cons x xs ih => simp [ih, Nat.add_assoc]

/-- Cutting at a position loses no item. -/
theorem takeExtent_append_dropExtent (n : Nat) (xs : List α) :
    takeExtent n xs ++ dropExtent n xs = xs := by
  induction xs generalizing n with
  | nil => rfl
  | cons x xs ih =>
    simp only [takeExtent, dropExtent]
    split
    · simp [ih]
    · rfl

theorem floorBoundary_le (xs : List α) (n : Nat) : floorBoundary xs n ≤ n := by
  induction xs generalizing n with
  | nil => simp [floorBoundary, takeExtent]
  | cons x xs ih =>
    simp only [floorBoundary, takeExtent]
    split
    · have := ih (n - width x)
      simp only [floorBoundary] at this
      simp only [extent_cons]
      omega
    · simp

theorem floorBoundary_le_extent (xs : List α) (n : Nat) : floorBoundary xs n ≤ extent xs := by
  have h := congrArg extent (takeExtent_append_dropExtent n xs)
  rw [extent_append] at h
  simp only [floorBoundary]
  omega

end ParseFlow
