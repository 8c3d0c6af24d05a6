/-!
# Tables of code points

A property is stored either as the intervals of code points that have it or, where every code point
has some value, as the ascending starts of the runs of one value.
-/
namespace ParseFlow.Text

/-- Closed intervals of code points. -/
abbrev Intervals := List (Nat × Nat)

/-- Whether one of the intervals holds the code point. -/
def Intervals.contains (intervals : Intervals) (code : Nat) : Bool :=
  intervals.any fun i => i.1 ≤ code && code ≤ i.2

/-- Ascending rows: each starts a run that lasts until the next row. -/
abbrev Runs (β : Type) := Array (Nat × β)

namespace Runs
variable {β : Type}

/-- Halves the rows from `lo` to below `hi`, keeping the last one that starts at or before `code`. -/
def bisect (runs : Runs β) (code : Nat) : Nat → Nat → Nat → Nat
  | 0, lo, _ => lo
  | halvings + 1, lo, hi =>
    if hi ≤ lo + 1 then lo
    else
      let middle := (lo + hi) / 2
      match runs[middle]? with
      | some row =>
        if row.1 ≤ code then bisect runs code halvings middle hi
        else bisect runs code halvings lo middle
      | none => bisect runs code halvings lo middle

/-- The value of the run that holds the code point. -/
def find? (runs : Runs β) (code : Nat) : Option β :=
  (runs[runs.bisect code (runs.size.log2 + 1) 0 runs.size]?).map (·.2)

end Runs
end ParseFlow.Text
