import ParseFlow.Text.Rendered

/-!
# Stages

The description of one step of a pipeline: its kind and the parameters it was built with. Functions
are known by their labels, and seeds and partner sequences by their printed form.
-/
namespace ParseFlow

open Text

/-- The name of a function placed in a pipeline. -/
structure Label where
  text : String
  deriving DecidableEq, Repr

instance : Ord Label := ⟨fun a b => compare (a.text.toList.map Char.toNat) (b.text.toList.map Char.toNat)⟩

instance : Rendered Label := ⟨fun label => called "Label" [render label.text]⟩

/-- How windows are cut: their size, how far each advances, and whether a short last one counts. -/
structure Window where
  size : Nat
  step : Nat
  remainder : Bool
  deriving DecidableEq, Repr

instance : Rendered Window where
  render w := withFields "Window"
    [("size", render w.size), ("step", render w.step), ("remainder", render w.remainder)]

inductive Stage where
  | map (label : Label)
  | filter (label : Label)
  | flatMap (label : Label)
  | take (count : Nat)
  | drop (count : Nat)
  | takeWhile (label : Label)
  | dropWhile (label : Label)
  | windowed (window : Window)
  | dedupe
  | unique
  | sort
  | sortBy (label : Label)
  | scan (reducer : Label) (seed : String)
  | reduce (reducer : Label) (seed : String)
  | zip (partner : String)
  | enumerate
  | inspect (label : Label)
  deriving DecidableEq, Repr

namespace Stage

/-- The tag of the stage. -/
def name : Stage → String
  | map _ => "map"
  | filter _ => "filter"
  | flatMap _ => "flat_map"
  | take _ => "take"
  | drop _ => "drop"
  | takeWhile _ => "take_while"
  | dropWhile _ => "drop_while"
  | windowed _ => "windowed"
  | dedupe => "dedupe"
  | unique => "unique"
  | sort => "sort"
  | sortBy _ => "sort_by"
  | scan _ _ => "scan"
  | reduce _ _ => "reduce"
  | zip _ => "zip"
  | enumerate => "enumerate"
  | inspect _ => "inspect"

/-- The parameters as they are displayed. -/
def parameters : Stage → List String
  | map label | filter label | flatMap label | takeWhile label | dropWhile label | sortBy label
  | inspect label => [label.text]
  | take count | drop count => [render count]
  | windowed w => [render w.size, render w.step, render w.remainder]
  | dedupe | unique | sort | enumerate => []
  | scan reducer seed | reduce reducer seed => [reducer.text, seed]
  | zip partner => [partner]

/-- The stage as `name(parameters)`. -/
def display (stage : Stage) : String := called stage.name stage.parameters

instance : Rendered Stage where
  render
    | map label => called "Map" [render label]
    | filter label => called "Filter" [render label]
    | flatMap label => called "FlatMap" [render label]
    | take count => called "Take" [render count]
    | drop count => called "Drop" [render count]
    | takeWhile label => called "TakeWhile" [render label]
    | dropWhile label => called "DropWhile" [render label]
    | windowed w => called "Windowed" [render w]
    | dedupe => "Dedupe"
    | unique => "Unique"
    | sort => "Sort"
    | sortBy label => called "SortBy" [render label]
    | scan reducer seed => withFields "Scan" [("reducer", render reducer), ("seed", render seed)]
    | reduce reducer seed => withFields "Reduce" [("reducer", render reducer), ("seed", render seed)]
    | zip partner => called "Zip" [render partner]
    | enumerate => "Enumerate"
    | inspect label => called "Inspect" [render label]

end Stage
end ParseFlow
