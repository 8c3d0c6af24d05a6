/-!
# Stage machines

A running stage is a machine that is driven by pulls. Between two reads of its input it goes through
a finite list of events, of which a consumer that stops pulling sees only a beginning. Chaining two
machines lets the second take the events of the first as its input.
-/
namespace ParseFlow.Pipeline

/-- What a running stage does: it leaves a note, has finished being set up, or answers a pull. -/
inductive Event (ω β : Type) where
  | note (w : ω)
  | ready
  | answer (out : Option β)
  deriving DecidableEq, Repr

/-- What the next pull does once all events are through. -/
inductive Next (σ : Type) where
  /-- It reads the input. -/
  | ask (state : σ)
  /-- It goes on without reading; the input is not read again. -/
  | idle (state : σ)
  /-- It answers that the sequence has ended. -/
  | closed

/-- The events of one burst of work and what comes after them. -/
structure Turn (ω β σ : Type) where
  events : List (Event ω β)
  next : Next σ

/-- A stage that can be run: how it starts, and how it goes on with an item or with the end. -/
structure Machine (ω α β : Type) where
  State : Type
  start : Turn ω β State
  feed : State → Option α → Turn ω β State

variable {ω α β γ σ τ : Type}

/-- Applies `f` to the state, if any is left. -/
def Next.map (f : σ → τ) : Next σ → Next τ
  | ask s => ask (f s)
  | idle s => idle (f s)
  | closed => closed

/-- The same work with nothing more to be read. -/
def Next.resting : Next σ → Next σ
  | ask s => idle s
  | idle s => idle s
  | closed => closed

/-- Where a chain of two machines stands. -/
inductive ChainState (σ τ : Type) where
  /-- The first is still being set up, and the second not yet begun. -/
  | opening (first : σ)
  | both (first : σ) (second : τ)
  /-- The second goes on alone. -/
  | alone (second : τ)

namespace Machine

/-- The second machine's events while those of the first pass through it. -/
def relay (second : Machine ω β γ) : List (Event ω β) → Next second.State → Turn ω γ second.State
  | [], next => ⟨[], next⟩
  | .note w :: events, .ask s =>
    let turn := relay second events (.ask s)
    ⟨.note w :: turn.events, turn.next⟩
  | .ready :: events, .ask s => relay second events (.ask s)
  | .answer out :: events, .ask s =>
    let turn := second.feed s out
    let rest := relay second events turn.next
    ⟨turn.events ++ rest.events, rest.next⟩
  | _ :: _, .idle s => ⟨[], .idle s⟩
  | _ :: _, .closed => ⟨[], .closed⟩

/-- The events of a chain whose first machine is being set up; with the second machine's progress
once it has begun. -/
def open? (second : Machine ω β γ) :
    List (Event ω β) → List (Event ω γ) × Option (Next second.State)
  | [] => ([], none)
  | .note w :: events =>
    let rest := open? second events
    (.note w :: rest.1, rest.2)
  | .ready :: events =>
    let turn := relay second events second.start.next
    (second.start.events ++ turn.events, some turn.next)
  | .answer _ :: events => open? second events

/-- Joins what is next for the first machine with what is next for the second. -/
def joinNext : Next σ → Next τ → Next (ChainState σ τ)
  | _, .closed => .closed
  | _, .idle t => .idle (.alone t)
  | .ask s, .ask t => .ask (.both s t)
  | .idle s, .ask t => .idle (.both s t)
  | .closed, .ask t => .idle (.alone t)

/-- What a chain does during a turn of a first machine that is being set up. -/
def opened (second : Machine ω β γ) (turn : Turn ω β σ) : Turn ω γ (ChainState σ second.State) :=
  match open? second turn.events with
  | (events, none) => ⟨events, turn.next.map .opening⟩
  | (events, some next) => ⟨events, joinNext turn.next next⟩

/-- The first machine feeding the second. -/
def chain (first : Machine ω α β) (second : Machine ω β γ) : Machine ω α γ where
  State := ChainState first.State second.State
  start := opened second first.start
  feed
    | .opening s, input => opened second (first.feed s input)
    | .both s t, input =>
      let turn := first.feed s input
      let rest := relay second turn.events (.ask t)
      ⟨rest.events, joinNext turn.next rest.next⟩
    | .alone t, _ =>
      let turn := second.feed t none
      ⟨turn.events, (turn.next.map .alone).resting⟩

/-- The machine that passes everything on. -/
def pass : Machine ω α α where
  State := Unit
  start := ⟨[.ready], .ask ()⟩
  feed _ input := ⟨[.answer input], .ask ()⟩

end Machine
end ParseFlow.Pipeline
