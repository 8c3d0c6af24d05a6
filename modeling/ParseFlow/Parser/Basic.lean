import ParseFlow.Parser.Trace
import ParseFlow.Pipeline.Transducer

/-!
# Parsers

A parser matches the beginning of a view and describes itself. Stages that are put on a parser apply
to its value and go into its description; they run the matcher underneath, so that only parsers run
as such appear in a trace.
-/
namespace ParseFlow

open Text Pipeline

structure Parser (α β : Type) where
  description : Description
  matcher : View α → Traced (Outcome α β)

namespace Parser
variable {α β γ δ : Type}

/-- A parser of the given form. -/
def ofForm (form : Form) (parts : List Description) (matcher : View α → Traced (Outcome α β)) :
    Parser α β :=
  ⟨.ofForm form parts, matcher⟩

/-- The same matcher under another form. -/
def redescribe (p : Parser α β) (form : Form) (parts : List Description) : Parser α β :=
  ⟨.ofForm form parts, p.matcher⟩

/-- A matcher of the caller's own. It reports where it stopped in every outcome. -/
def custom (label : String) (matcher : View α → Outcome α β) : Parser α β :=
  ofForm (.custom ⟨label⟩) [] fun input => pure (matcher input)

/-- Runs the parser and records how it fared. -/
def parse (p : Parser α β) (input : View α) : Traced (Outcome α β) := do
  let outcome ← p.matcher input
  Traced.emit? (TraceEvent.ofOutcome p.description input outcome)
  pure outcome

def display (p : Parser α β) : String := p.description.display

instance : Rendered (Parser α β) where
  render p := called "Parser" [render p.description]

/-! ## Stages -/

/-- Transforms the value with a function that leaves a trace of its own. -/
def mapTraced (p : Parser α β) (label : String) (f : β → Traced γ) : Parser α γ where
  description := p.description.staged [.map ⟨label⟩]
  matcher input := (p.matcher input).onSuccess fun value rest => return .success (← f value) rest

/-- Transforms the value. -/
def map (p : Parser α β) (label : String) (f : β → γ) : Parser α γ where
  description := p.description.staged [.map ⟨label⟩]
  matcher input := return (← p.matcher input).map f

/-- Goes on with the parser that `f` chooses by the value. -/
def flatMap (p : Parser α β) (label : String) (f : β → Parser α γ) : Parser α γ where
  description := p.description.staged [.flatMap ⟨label⟩]
  matcher input := (p.matcher input).onSuccess fun value rest => (f value).parse rest

/-- Rejects values that fail the predicate, at the position the parse began. -/
def filter (p : Parser α β) (label : String) (keep : β → Bool) : Parser α β where
  description := p.description.staged [.filter ⟨label⟩]
  matcher input := (p.matcher input).onSuccess fun value rest =>
    if keep value then return .success value rest
    else do
      let reason := (Stage.filter ⟨label⟩).display
      Traced.emit (.rejected input.offset reason)
      return .failure reason input

/-- Runs a pipeline over the items that `items` finds in the value, and collects what it puts out.
Where there is no end to that the parse never returns. -/
def pipeItems {ω : Type} (p : Parser α β) (items : β → Items γ) (t : Transducer ω γ δ) :
    Parser α (List δ) where
  description := p.description.staged t.stages
  matcher input :=
    return (← p.matcher input).flatMap fun value => .ofValue? (t.collect (items value))

/-- Runs a pipeline over the items of the value. -/
def pipe {ω : Type} [IntoItems β γ] (p : Parser α β) (t : Transducer ω γ δ) : Parser α (List δ) :=
  p.pipeItems IntoItems.items t

/-- Threads the value as a single one through a pipeline; a stage that rejects it fails the parse at
the position where it began. -/
def thread {ω : Type} (p : Parser α β) (t : Transducer ω β γ) : Parser α γ where
  description := p.description.staged t.stages
  matcher input := (p.matcher input).onSuccess fun value rest =>
    match t.applyValue value with
    | some (.ok result) => return .success result rest
    | some (.error stage) => do
      Traced.emit (.rejectedBy input.offset stage)
      return .failure stage.display input
    | none => return .endless rest

/-! ## Single items -/

variable [Item α]

/-- The reason for failing to match a form that has no parts. -/
def expected (form : Form) : String := "expected " ++ (Description.ofForm form []).display

/-- One item that satisfies the predicate. -/
def satisfy (label : String) (accept : α → Bool) : Parser α α :=
  ofForm (.satisfy ⟨label⟩) [] fun input =>
    match input.peek? with
    | some (item, w) =>
      if accept item then pure (.success item (input.advance w))
      else pure (.failure (expected (.satisfy ⟨label⟩)) input)
    | none => pure (.failure (expected (.satisfy ⟨label⟩)) input)

/-- One item, whatever it is. -/
def any : Parser α α :=
  ofForm .any [] fun input =>
    match input.peek? with
    | some (item, w) => pure (.success item (input.advance w))
    | none => pure (.failure (expected .any) input)

/-- The end of the input. -/
def «end» : Parser α Unit :=
  ofForm .end [] fun input =>
    if input.isEmpty then pure (.success () input) else pure (.failure (expected .end) input)

/-- A literal sequence of items. -/
def sequence [DecidableEq α] [Rendered α] (items : List α) : Parser α (List α) :=
  ofForm (.sequence (render items)) [] fun input =>
    if items.isPrefixOf input.window then pure (.success items (input.advance (extent items)))
    else pure (.failure (expected (.sequence (render items))) input)

end Parser
end ParseFlow
