import ParseFlow.Parser.Description
import ParseFlow.Parser.Outcome

/-!
# Traces

Running a parser leaves a trace: an event for every parser that was run as such, and events of the
repetitions, rejections and grammars on the way.
-/
namespace ParseFlow

open Text

inductive TraceEvent where
  | succeeded (parser : Description) (start stop : Nat)
  | failed (parser : Description) (start stopped : Nat) (reason : String)
  | repetitionEnded (count offset : Nat)
  /-- A predicate rejected the value of a parse that began at `offset`. -/
  | rejected (offset : Nat) (reason : String)
  /-- A stage of a pipeline rejected the value of a parse that began at `offset`. -/
  | rejectedBy (offset : Nat) (stage : Stage)
  | searchGaveUp (offset : Nat)
  | strippingMarkers
  | comment (text : String)
  | readingBody (length : Nat)
  | parsedDoc (tags : Nat)
  deriving DecidableEq

/-- A value with the events that led to it. -/
structure Traced (β : Type) where
  events : List TraceEvent
  value : β

namespace Traced
variable {β γ : Type}

instance : Monad Traced where
  pure value := ⟨[], value⟩
  bind x f := ⟨x.events ++ (f x.value).events, (f x.value).value⟩

/-- Records one event. -/
def emit (event : TraceEvent) : Traced Unit := ⟨[event], ()⟩

/-- Records an event, if there is one. -/
def emit? (event : Option TraceEvent) : Traced Unit := ⟨event.toList, ()⟩

@[simp] theorem value_pure (value : β) : (pure value : Traced β).value = value := rfl

@[simp] theorem events_pure (value : β) : (pure value : Traced β).events = [] := rfl

@[simp] theorem value_bind (x : Traced β) (f : β → Traced γ) :
    (x >>= f).value = (f x.value).value := rfl

@[simp] theorem events_bind (x : Traced β) (f : β → Traced γ) :
    (x >>= f).events = x.events ++ (f x.value).events := rfl

/-- Events are joined in the order they come, however the steps are grouped. -/
instance : LawfulMonad Traced :=
  LawfulMonad.mk' Traced
    (fun x => congrArg (Traced.mk · x.value) (List.append_nil x.events))
    (fun _ _ => rfl)
    (fun x f g => congrArg (Traced.mk · (g (f x.value).value).value)
      (List.append_assoc x.events (f x.value).events (g (f x.value).value).events))

/-- Goes on from a success; any other outcome is left alone. -/
def onSuccess {α : Type} (x : Traced (Outcome α β)) (f : β → View α → Traced (Outcome α γ)) :
    Traced (Outcome α γ) := do
  match ← x with
  | .success value rest => f value rest
  | .failure reason rest => return .failure reason rest
  | .endless rest => return .endless rest

end Traced

/-- The event that tells how a parser fared on an input, once it has returned. -/
def TraceEvent.ofOutcome {α β : Type} (parser : Description) (input : View α) :
    Outcome α β → Option TraceEvent
  | .success _ rest => some (succeeded parser input.offset rest.offset)
  | .failure reason rest => some (failed parser input.offset rest.offset (escaped reason))
  | .endless _ => none

end ParseFlow
