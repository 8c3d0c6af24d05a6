import ParseFlow.Pipeline.Items
import ParseFlow.Pipeline.Machine

/-!
# Runs of a machine

A machine is pulled until it reports the end, if it ever does. The story of a run is everything that
happens while it is pulled until it has used up its input or reads no more of it, in order. What a
consumer sees of it ends with the last answer it pulls.
-/
namespace ParseFlow.Pipeline

/-- One thing that happens during a run. -/
inductive Happening (ω α β : Type) where
  | read (x : α)
  | note (w : ω)
  | applied
  | output (y : β)
  | ended
  deriving DecidableEq, Repr

variable {ω α β : Type}

def Event.happening : Event ω β → Happening ω α β
  | note w => .note w
  | ready => .applied
  | answer (some y) => .output y
  | answer none => .ended

/-! ## Collecting -/

/-- The items that the events answer with, and after them the later ones, as far as the end that the
events report. -/
def passing : List (Event ω β) → List β → List β
  | [], later => later
  | .note _ :: events, later => passing events later
  | .ready :: events, later => passing events later
  | .answer (some y) :: events, later => y :: passing events later
  | .answer none :: _, _ => []

/-- Whether the events report the end. -/
def reportsEnd (events : List (Event ω β)) : Bool :=
  events.any fun e => match e with
    | .answer none => true
    | _ => false

/-- Whether the next pull asks the input. -/
def Next.asks {σ : Type} : Next σ → Bool
  | .ask _ => true
  | _ => false

namespace Machine

/-- The next burst of work. A machine that does not ask is not told what the input answers, and one
that is closed reports the end once more. -/
def goOn (m : Machine ω α β) : Next m.State → Option α → Turn ω β m.State
  | .ask s, answer => m.feed s answer
  | .idle s, _ => m.feed s none
  | .closed, _ => ⟨[.answer none], .closed⟩

/-- The next burst of work and the input after it, which is asked if the machine asks. -/
def pull (m : Machine ω α β) (next : Next m.State) (input : Items α) :
    Turn ω β m.State × Items α :=
  if next.asks then (m.goOn next input.head?, input.tail) else (m.goOn next none, input)

/-- The outputs from a turn on up to the end that is reported, if it ever is. -/
def collectFrom (m : Machine ω α β) (turn : Turn ω β m.State) (input : Items α) :
    Option (List β) :=
  if reportsEnd turn.events then some (passing turn.events [])
  else
    let after := m.pull turn.next input
    passing turn.events <$> (m |>.collectFrom after.1 after.2)
partial_fixpoint

end Machine

/-! ## Stories -/

namespace Machine

/-- What happens from a turn on while the items are read, up to where another would be asked for. -/
def storySoFar (m : Machine ω α β) : Turn ω β m.State → List α → List (Happening ω α β)
  | ⟨events, .ask s⟩, x :: xs =>
    events.map Event.happening ++ .read x :: storySoFar m (m.feed s (some x)) xs
  | ⟨events, _⟩, _ => events.map Event.happening

/-- What happens from a turn on when the input holds just these items. -/
def story (m : Machine ω α β) : Turn ω β m.State → List α → List (Happening ω α β)
  | ⟨events, .ask s⟩, x :: xs =>
    events.map Event.happening ++ .read x :: story m (m.feed s (some x)) xs
  | ⟨events, .ask s⟩, [] => events.map Event.happening ++ (m.feed s none).events.map Event.happening
  | ⟨events, _⟩, _ => events.map Event.happening

end Machine

/-- The outputs before the end is reported. -/
def outputs : List (Happening ω α β) → List β
  | [] => []
  | .output y :: rest => y :: outputs rest
  | .ended :: _ => []
  | _ :: rest => outputs rest

/-- What is seen by a consumer that pulls at most `pulls` times. -/
def seen : Nat → List (Happening ω α β) → List (Happening ω α β)
  | _, [] => []
  | _, .ended :: _ => [.ended]
  | 0, .applied :: _ => [.applied]
  | 0, .output _ :: _ => []
  | pulls + 1, .output y :: rest => .output y :: (if pulls = 0 then [] else seen pulls rest)
  | pulls, h :: rest => h :: seen pulls rest

/-- Whether `pulls` pulls have been answered or the end been reported. -/
def answered (pulls : Nat) (story : List (Happening ω α β)) : Bool :=
  pulls ≤ (outputs story).length || story.any fun h => match h with
    | .ended => true
    | _ => false

/-- The story over an unbounded input, told on ever longer beginnings of it, each twice the one
before, until `pulls` pulls have been answered. -/
def storyUnbounded (m : Machine ω α β) (input : Nat → α) (pulls : Nat) :
    (doublings : Nat) → (length : Nat) → List (Happening ω α β)
  | 0, length => m.storySoFar m.start ((List.range length).map input)
  | doublings + 1, length =>
    let told := m.storySoFar m.start ((List.range length).map input)
    if answered pulls told then told
    else storyUnbounded m input pulls doublings (2 * length)

end ParseFlow.Pipeline
