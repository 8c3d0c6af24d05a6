import ParseFlow.Parser.Combinator
import ParseFlow.Regex.Basic

/-!
# Parsers over text

Views of text are indexed by bytes, and every parser here consumes whole characters. Regular
expressions see the window of the view and nothing around it.
-/
namespace ParseFlow.Parser

open Text

/-- A literal string. -/
def string (literal : String) : Parser Char String :=
  ofForm (.string literal) [] fun input =>
    if literal.toList.isPrefixOf input.window then
      pure (.success literal (input.advance (extent literal.toList)))
    else pure (.failure (expected (.string literal)) input)

/-- A match of so many characters. -/
def matched (input : View Char) (length : Nat) : Outcome Char String :=
  let text := input.window.take length
  .success (String.ofList text) (input.advance (extent text))

/-- The longest match of a compiled expression. -/
def longest (compiled : Regex) : Parser Char String :=
  ofForm (.regex compiled.source) [] fun input =>
    match compiled.expr.longest input.window with
    | .found length => pure (matched input length)
    | .missing => pure (.failure (expected (.regex compiled.source)) input)
    | .gaveUp => do
      Traced.emit (.searchGaveUp input.offset)
      return .failure (expected (.regex compiled.source)) input

/-- The longest match of a regular expression. -/
def regex (source : String) : Except ConstructionError (Parser Char String) :=
  match Regex.compile source with
  | .ok compiled => .ok (longest compiled)
  | .error _ => .error .expression

/-- The match that a compiled expression prefers, if it begins where the input does. -/
def pattern (compiled : Regex) : Parser Char String :=
  ofForm (.regex compiled.source) [] fun input =>
    match compiled.expr.preferred none 0 input.window with
    | some (length, _) => pure (matched input length)
    | none => pure (.failure (expected (.regex compiled.source)) input)

end ParseFlow.Parser
