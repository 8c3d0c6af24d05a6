import ParseFlow.Pipeline.Transducer
import ParseFlow.Value.Function

/-!
# Pipelines over dynamic values

A flow takes dynamic values and may end in a type of its own, such as pairs with an index. Whatever
is composed after such a flow sees dynamic values again, by a stage that turns its outputs into them.
-/
namespace ParseFlow.Dynamic

open Text Pipeline

/-- A note left by an inspecting stage: its label and the value that passed. -/
structure Note where
  label : String
  value : Value

/-- What a flow ends in. -/
inductive FlowEnd : Type → Type 1 where
  | value : FlowEnd Value
  | native {β : Type} : FlowEnd β

structure Flow where
  Out : Type
  transducer : Transducer Note Value Out
  toValue : Out → Value
  kind : FlowEnd Out

namespace Flow

/-- A flow that ends in dynamic values. -/
def ofValues (t : Transducer Note Value Value) : Flow := ⟨Value, t, id, .value⟩

/-- A flow that ends in values of a type of their own. -/
def native {β : Type} [ToValue β] (t : Transducer Note Value β) : Flow :=
  ⟨β, t, ParseFlow.toValue, .native⟩

/-- The flow with a last stage that makes its outputs dynamic, if they are not. -/
def packed : Flow → Transducer Note Value Value
  | ⟨_, t, _, .value⟩ => t
  | ⟨_, t, toValue, .native⟩ => .compose t (.map "v" toValue)

/-- The second flow after the first. -/
def andThen (first second : Flow) : Flow :=
  ⟨second.Out, .compose first.packed second.transducer, second.toValue, second.kind⟩

/-- Flows one after the other; none is the identity. -/
def compose : List Flow → Flow
  | [] => ofValues .identity
  | first :: rest => rest.foldl andThen first

def dedupe : Flow := ofValues .dedupe

def unique : Flow := ofValues .unique

def sort : Flow := ofValues .sort

def enumerate : Flow := native .enumerate

def windowed (window : Window) : Except ConstructionError Flow :=
  (Transducer.windowed window).map native

/-- Leaves a note of every value. -/
def inspect (label : String) : Flow := ofValues (.inspect label (⟨label, ·⟩))

/-- Pairs with a fixed list of values. -/
def zipList (items : List Value) : Flow := native (.zip (.ofList items) (render items))

/-- Pairs with the integers from `first` on. -/
def zipFrom (first : Int) : Flow :=
  native (.zip ((Sequence.integersFrom first).map Value.int) (render first ++ ".."))

/-- Pairs with the integers from `first` to below `limit`. -/
def zipBelow (first limit : Int) : Flow :=
  native (.zip ((Sequence.integersBelow first limit).map Value.int)
    (render first ++ ".." ++ render limit))

/-- Pairs with the integers from `first` to `last`. -/
def zipThrough (first last : Int) : Flow :=
  native (.zip ((Sequence.integersThrough first last).map Value.int)
    (render first ++ "..=" ++ render last))

/-- What a consumer that pulls at most `pulls` times sees over a list, outputs made dynamic. -/
def storyOf (flow : Flow) (items : List Value) (pulls : Nat) :
    List (Happening Note Value flow.Out) :=
  seen pulls (flow.transducer.story items)

/-- The same over the integers from `first` on. -/
def storyFrom (flow : Flow) (first : Int) (pulls : Nat) : List (Happening Note Value flow.Out) :=
  seen pulls (storyUnbounded flow.transducer.machine (fun i => .int (first + i)) pulls 24 16)

end Flow
end ParseFlow.Dynamic
