import ParseFlow.Error
import ParseFlow.Pipeline.Op

/-!
# Transducers

A transducer is an operation or a composition of transducers. However it was put together it is
described by one flat list of stages and runs as one machine. Its outputs are collected if they end;
applied to a single value each operation passes on the last item it makes of it, or rejects the
value.
-/
namespace ParseFlow.Pipeline

open Text

inductive Transducer (ω : Type) : Type → Type → Type 1 where
  | identity {α : Type} : Transducer ω α α
  | op {α β : Type} (operation : Op ω α β) : Transducer ω α β
  | compose {α β γ : Type} (first : Transducer ω α β) (second : Transducer ω β γ) : Transducer ω α γ

namespace Transducer
variable {ω α β : Type}

/-- The flat list of stages. -/
def stages {α β : Type} : Transducer ω α β → List Stage
  | identity => []
  | op operation => [operation.stage]
  | compose first second => first.stages ++ second.stages

def len (t : Transducer ω α β) : Nat := t.stages.length

def isEmpty (t : Transducer ω α β) : Bool := t.stages.isEmpty

/-- The machine that runs all stages item by item. -/
def machine {α β : Type} : Transducer ω α β → Machine ω α β
  | identity => Machine.pass
  | op operation => operation.machine
  | compose first second => first.machine.chain second.machine

/-- Everything that happens when the transducer runs over a list. -/
def story (t : Transducer ω α β) (items : List α) : List (Happening ω α β) :=
  t.machine.story t.machine.start items

/-- All outputs, if there is an end to them. -/
def collect (t : Transducer ω α β) (input : Items α) : Option (List β) :=
  t.machine.collectFrom t.machine.start input

/-- The last item an operation makes of a single value, or the stage if it makes none. There is no
result if it makes items without end. -/
def applyOp (operation : Op ω α β) (value : α) : Option (Except Stage β) :=
  (collect (.op operation) [value]).map fun outputs =>
    match outputs.getLast? with
    | some last => .ok last
    | none => .error operation.stage

/-- Threads a single value through the stages; the first that rejects it is the error. -/
def applyValue {α β : Type} : Transducer ω α β → α → Option (Except Stage β)
  | identity, value => some (.ok value)
  | op operation, value => applyOp operation value
  | compose first second, value =>
    (first.applyValue value).bind fun
      | .ok middle => second.applyValue middle
      | .error stage => some (.error stage)

/-- A single stage stands for itself; any other number is composed. -/
def display (t : Transducer ω α β) : String :=
  match t.stages with
  | [stage] => stage.display
  | stages => called "compose" (stages.map Stage.display)

instance : Rendered (Transducer ω α β) where
  render t := withFields "Transducer" [("stages", render t.stages)]

/-! ## Building blocks -/

def map (label : String) (f : α → β) : Transducer ω α β := op (.map ⟨label⟩ f)

def filter (label : String) (keep : α → Bool) : Transducer ω α α := op (.filter ⟨label⟩ keep)

/-- All items that `f` finds for an item. -/
def flatMap {ι : Type} [IntoItems ι β] (label : String) (f : α → ι) : Transducer ω α β :=
  op (.flatMap ⟨label⟩ fun x => IntoItems.items (f x))

def take (count : Nat) : Transducer ω α α := op (.take count)

def drop (count : Nat) : Transducer ω α α := op (.drop count)

def takeWhile (label : String) (keep : α → Bool) : Transducer ω α α := op (.takeWhile ⟨label⟩ keep)

def dropWhile (label : String) (skip : α → Bool) : Transducer ω α α := op (.dropWhile ⟨label⟩ skip)

/-- Windows of a size and step, neither of which may be zero. -/
def windowed (window : Window) : Except ConstructionError (Transducer ω α (List α)) :=
  if h : 0 < window.size ∧ 0 < window.step then .ok (op (.windowed window h.1 h.2))
  else .error (.window window.size window.step)

def dedupe [DecidableEq α] : Transducer ω α α := op .dedupe

def unique [DecidableEq α] : Transducer ω α α := op .unique

/-- Sorts by the natural order. -/
def sort [Ord α] : Transducer ω α α := op (.sort compare)

def sortBy (label : String) (order : α → α → Ordering) : Transducer ω α α :=
  op (.sortBy ⟨label⟩ order)

def scan [Rendered β] (label : String) (f : β → α → β) (seed : β) : Transducer ω α β :=
  op (.scan ⟨label⟩ f seed (render seed))

def reduce [Rendered β] (label : String) (f : β → α → β) (seed : β) : Transducer ω α β :=
  op (.reduce ⟨label⟩ f seed (render seed))

/-- Pairs with a sequence that is known in descriptions by its printed form. -/
def zip (partner : Sequence β) (text : String) : Transducer ω α (α × β) := op (.zip partner text)

def enumerate : Transducer ω α (Nat × α) := op .enumerate

/-- Leaves a note of every item that passes. -/
def inspect (label : String) (observe : α → ω) : Transducer ω α α := op (.inspect ⟨label⟩ observe)

end Transducer
end ParseFlow.Pipeline
