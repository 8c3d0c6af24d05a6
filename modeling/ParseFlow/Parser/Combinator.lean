import ParseFlow.Parser.Basic
import ParseFlow.Parser.NonEmpty

/-!
# Combinators

Parsers put together from other parsers. Each is composed from those it is given and then described
anew. The first parser to fail ends the parse, and its failure is passed on unchanged.
-/
namespace ParseFlow.Parser

open Text

variable {α β γ δ : Type}

/-- This parser, then another on the rest. -/
def «then» (p : Parser α β) (q : Parser α γ) : Parser α (β × γ) :=
  ofForm .then [p.description, q.description] fun input =>
    (p.parse input).onSuccess fun first rest =>
      return (← q.parse rest).map fun second => (first, second)

/-- The core with `opening` required before it. -/
def precededBy (core : Parser α β) (opening : Parser α γ) : Parser α β :=
  ((opening.then core).map "second" (·.2)).redescribe .precededBy
    [core.description, opening.description]

/-- The core with `closing` required after it. -/
def followedBy (core : Parser α β) (closing : Parser α γ) : Parser α β :=
  ((core.then closing).map "first" (·.1)).redescribe .followedBy
    [core.description, closing.description]

/-- The core with `opening` required before and `closing` after it. -/
def between (core : Parser α β) (opening : Parser α γ) (closing : Parser α δ) : Parser α β :=
  ((core.precededBy opening).followedBy closing).redescribe .between
    [core.description, opening.description, closing.description]

/-! ## Repetition -/

/-- Runs the parser at most `max` times, until it fails or succeeds without consuming anything. -/
def attempts (p : Parser α β) : (max : Nat) → View α → Traced (Outcome α (List β))
  | 0, input => pure (.success [] input)
  | max + 1, input => do
    match ← p.parse input with
    | .success value rest =>
      if rest.offset = input.offset then return .success [value] rest
      else return (← attempts p max rest).map (value :: ·)
    | .failure _ _ => return .success [] input
    | .endless rest => return .endless rest

/-- The values of a repetition and the input after it. -/
def repeatedly (p : Parser α β) (max : Nat) (input : View α) : Traced (Outcome α (List β)) :=
  (p.attempts max input).onSuccess fun values rest => do
    Traced.emit (.repetitionEnded values.length rest.offset)
    return .success values rest

/-- As many repetitions as there are, none included. -/
def many (p : Parser α β) : Parser α (List β) :=
  ofForm .many [p.description] (p.repeatedly maxIndex)

/-- As many repetitions as there are, but at least one. -/
def many1 (p : Parser α β) : Parser α (NonEmpty β) :=
  ofForm .many1 [p.description] fun input => do
    match ← p.parse input with
    | .success value rest =>
      if rest.offset = input.offset then return .success ⟨value, []⟩ rest
      else return (← p.repeatedly maxIndex rest).map (⟨value, ·⟩)
    | .failure _ _ => return .failure ("expected at least 1 of " ++ p.display) input
    | .endless rest => return .endless rest

/-- At least `min` and at most `max` repetitions. Too few are a failure where the last attempt
stopped. -/
def «repeat» (p : Parser α β) (min max : Nat) : Except ConstructionError (Parser α (List β)) :=
  if max < min then .error (.bounds min max)
  else
    .ok <| ofForm (.repeat min max) [p.description] fun input =>
      (p.repeatedly max input).onSuccess fun values rest =>
        if values.length < min then
          let inner := p.display
          let found := values.length
          return .failure s!"expected at least {min} of {inner}, found {found}" rest
        else return .success values rest

/-! ## Sequences -/

/-- A parser that yields no values and consumes nothing. -/
def nothing : Parser α (List β) := ofForm .list [] fun input => pure (.success [] input)

/-- Parsers one after the other. -/
def list (parsers : List (Parser α β)) : Parser α (List β) :=
  (parsers.foldl
    (fun collected p => (collected.then p).map "push" fun both => both.1 ++ [both.2])
    nothing).redescribe .list (parsers.map (·.description))

/-- Two parsers one after the other. -/
def pair (first : Parser α β) (second : Parser α γ) : Parser α (β × γ) :=
  (first.then second).redescribe .pair [first.description, second.description]

/-- Three parsers one after the other. -/
def triple (first : Parser α β) (second : Parser α γ) (third : Parser α δ) :
    Parser α (β × γ × δ) :=
  (((first.then second).then third).map "flatten" fun v => (v.1.1, v.1.2, v.2)).redescribe .triple
    [first.description, second.description, third.description]

/-- Exactly `n` parsers one after the other. -/
def tuple (n : Nat) (parsers : List (Parser α β)) :
    Except ConstructionError (Parser α (Vector β n)) :=
  if parsers.length ≠ n then .error (.arity n parsers.length)
  else
    .ok <| ofForm .tuple (parsers.map (·.description)) fun input => do
      let outcome ← (list parsers).parse input
      return outcome.flatMap fun values rest =>
        if h : values.length = n then .success ⟨values.toArray, by simpa using h⟩ rest
        else
          let found := values.length
          .failure s!"expected {n} values, found {found}" rest

end ParseFlow.Parser
