import ParseFlow.Text.Rendered

/-!
# Indexed sequences

A finite or unbounded sequence, read by index. Once it has ended it stays ended.
-/
namespace ParseFlow.Pipeline

structure Sequence (α : Type) where
  get : Nat → Option α
  stays_ended : ∀ i, get i = none → get (i + 1) = none

namespace Sequence
variable {α : Type}

def ofList (items : List α) : Sequence α where
  get i := items[i]?
  stays_ended i h := by
    rw [List.getElem?_eq_none_iff] at h ⊢
    omega

/-- The integers from `first` on. -/
def integersFrom (first : Int) : Sequence Int where
  get i := some (first + i)
  stays_ended _ h := by simp at h

/-- The integers from `first` to below `limit`. -/
def integersBelow (first limit : Int) : Sequence Int where
  get i := if first + i < limit then some (first + i) else none
  stays_ended i h := by
    simp only [ite_eq_right_iff, reduceCtorEq, imp_false] at h ⊢
    omega

/-- The integers from `first` to `last`, both included. -/
def integersThrough (first last : Int) : Sequence Int := integersBelow first (last + 1)

/-- The same sequence with `f` applied to its members. -/
def map {β : Type} (f : α → β) (sequence : Sequence α) : Sequence β where
  get i := (sequence.get i).map f
  stays_ended i h := by
    simp only [Option.map_eq_none_iff] at h ⊢
    exact sequence.stays_ended i h

end Sequence
end ParseFlow.Pipeline
