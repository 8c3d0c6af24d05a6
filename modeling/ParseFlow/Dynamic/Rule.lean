import ParseFlow.Dynamic.Flow
import ParseFlow.Grammar.Comment
import ParseFlow.Grammar.JsDoc

/-!
# Parsers with dynamic values

A rule is a parser that keeps the type of its values but knows how to make them dynamic. Where rules
are put together their values are made dynamic by a stage, unless they are already; what a rule only
delimits another with is left alone if it is plain text or nothing.
-/
namespace ParseFlow.Dynamic

open Text Pipeline

/-- What the values of a rule are. -/
inductive Yield : Type → Type 1 where
  | value : Yield Value
  | values : Yield (List Value)
  | nonEmpty : Yield (NonEmpty Value)
  /-- Text or nothing, which needs no packing where it is discarded. -/
  | bare {β : Type} : Yield β
  | native {β : Type} : Yield β

structure Rule (α : Type) where
  Out : Type
  parser : Parser α Out
  toValue : Out → Value
  print : Out → String
  yields : Yield Out

/-- Types of items with what rules need to know of them. -/
class Medium (α : Type) extends Item α, Rendered α, ToValue α where
  /-- A whole window as one value. -/
  windowValue : List α → Value
  /-- The parser that matches a value literally. -/
  literal : Value → Parser α Value

export Medium (windowValue literal)

namespace Rule

variable {α : Type}

def of {β : Type} [ToValue β] [Rendered β] (yields : Yield β) (p : Parser α β) : Rule α :=
  ⟨β, p, ParseFlow.toValue, render, yields⟩

def ofValue (p : Parser α Value) : Rule α := of .value p

def ofList (p : Parser α (List Value)) : Rule α := of .values p

def bare {β : Type} [ToValue β] [Rendered β] (p : Parser α β) : Rule α := of .bare p

def native {β : Type} [ToValue β] [Rendered β] (p : Parser α β) : Rule α := of .native p

/-- The parser with its values made dynamic, if they are not. -/
def packed : Rule α → Parser α Value
  | ⟨_, p, _, _, .value⟩ => p
  | ⟨_, p, toValue, _, _⟩ => p.map "v" toValue

/-- The parser as a delimiter. -/
def delimiter : Rule α → (β : Type) × Parser α β
  | ⟨β, p, _, _, .bare⟩ => ⟨β, p⟩
  | rule => ⟨Value, rule.packed⟩

/-- The same kind of values from another parser. -/
def withParser (rule : Rule α) (p : Parser α rule.Out) : Rule α := { rule with parser := p }

/-- Runs the rule. -/
def parse (rule : Rule α) (input : View α) : Traced (Outcome α rule.Out) := rule.parser.parse input

/-- An outcome with its value made dynamic. -/
def valueOutcome (rule : Rule α) (outcome : Outcome α rule.Out) : Outcome α Value :=
  outcome.map rule.toValue

/-- An outcome as it prints. -/
def displayOutcome [Item α] (rule : Rule α) (outcome : Outcome α rule.Out) : String :=
  let _ : Rendered rule.Out := ⟨rule.print⟩
  render outcome

/-! ## Stages -/

def map (rule : Rule α) (label : String) (f : Value → Value) : Rule α :=
  ofValue (rule.parser.map label fun v => f (rule.toValue v))

def filter (rule : Rule α) (label : String) (keep : Value → Bool) : Rule α :=
  rule.withParser (rule.parser.filter label fun v => keep (rule.toValue v))

/-- Runs a flow over the items of the value. -/
def pipe : Rule α → Flow → Rule α
  | ⟨_, p, _, _, .values⟩, flow => ofList (p.pipe flow.packed)
  | ⟨_, p, _, _, .nonEmpty⟩, flow => ofList (p.pipe flow.packed)
  | rule, flow => ofList (rule.packed.pipeItems (.listed ·.elements) flow.packed)

/-- Threads the value through a flow. -/
def thread (rule : Rule α) (flow : Flow) : Rule α := ofValue (rule.packed.thread flow.packed)

/-! ## Sequences and repetitions -/

def «then» (a b : Rule α) : Rule α := native (a.packed.then b.packed)

def pair (a b : Rule α) : Rule α := native (Parser.pair a.packed b.packed)

def triple (a b c : Rule α) : Rule α := native (Parser.triple a.packed b.packed c.packed)

def precededBy (core opening : Rule α) : Rule α :=
  core.withParser (core.parser.precededBy opening.delimiter.2)

def followedBy (core closing : Rule α) : Rule α :=
  core.withParser (core.parser.followedBy closing.delimiter.2)

def between (core opening closing : Rule α) : Rule α :=
  core.withParser (core.parser.between opening.delimiter.2 closing.delimiter.2)

def many (rule : Rule α) : Rule α := ofList rule.packed.many

def many1 (rule : Rule α) : Rule α := of .nonEmpty rule.packed.many1

def «repeat» (rule : Rule α) (min max : Nat) : Except ConstructionError (Rule α) :=
  (rule.packed.repeat min max).map ofList

def list (rules : List (Rule α)) : Rule α := ofList (Parser.list (rules.map packed))

def tuple (n : Nat) (rules : List (Rule α)) : Except ConstructionError (Rule α) :=
  (Parser.tuple n (rules.map packed)).map native

/-! ## Single items and custom matchers -/

section Items
variable [Medium α]

def any : Rule α := native Parser.any

def satisfy (label : String) (accept : Value → Bool) : Rule α :=
  native (Parser.satisfy label fun x => accept (ParseFlow.toValue x))

def «end» : Rule α := bare Parser.end

/-- The matchers known by name; all are given a number of positions. -/
inductive Custom where
  /-- Takes the whole window. -/
  | rest
  /-- Skips positions. -/
  | skip
  /-- Fails after so many positions. -/
  | fail
  /-- Cuts positions off the end of the window. -/
  | chop

def Custom.matcher (kind : Custom) (count : Nat) (input : View α) : Outcome α Value :=
  match kind with
  | rest => .success (windowValue input.window) (input.advance input.len)
  | skip => .success (.int count) (input.advance count)
  | fail => .failure "nope" (input.advance count)
  | chop => .success .unit (input.slice (.before (input.len - count)))

def custom (label : String) (kind : Custom) (count : Nat) : Rule α :=
  ofValue (Parser.custom label (kind.matcher count))

/-! ## Choices by value -/

/-- How a rule goes on that depends on a value. -/
inductive Fallback (α : Type) where
  /-- The value literally. -/
  | same
  /-- As many items as the value says. -/
  | count
  | given (p : Parser α Value)
  | fail

structure Choice (α : Type) where
  cases : List (Value × Parser α Value)
  fallback : Fallback α

/-- The parser that always fails where it begins. -/
def failing : Parser α Value := Parser.custom "fail" (Custom.matcher .fail 0)

/-- Exactly `n` items. -/
def exactly (n : Nat) : Parser α Value :=
  match (any : Rule α).repeat n n with
  | .ok rule => rule.packed
  | .error _ => failing

/-- The parser a choice makes for a value. -/
def Choice.parser (choice : Choice α) (v : Value) : Parser α Value :=
  match choice.cases.lookup v with
  | some p => p
  | none =>
    match choice.fallback with
    | .same => literal v
    | .count => exactly v.parseNumber
    | .given p => p
    | .fail => failing

def flatMap (rule : Rule α) (label : String) (choice : Choice α) : Rule α :=
  ofValue (rule.parser.flatMap label fun v => choice.parser (rule.toValue v))

end Items
end Rule

/-! ## Text and items -/

instance : Medium Char where
  windowValue items := .str (String.ofList items)
  literal v := (Rule.bare (Parser.string (match v with
    | .str s => s
    | .char c => String.singleton c
    | _ => ""))).packed

instance : Medium Value where
  windowValue items := .list items
  literal v := (Rule.ofList (Parser.sequence [v])).packed

namespace Rule

def string (literal : String) : Rule Char := bare (Parser.string literal)

def regex (source : String) : Except ConstructionError (Rule Char) :=
  (Parser.regex source).map bare

/-- A compiled expression, or an error if the source cannot be compiled. -/
def pattern (source : String) : Except ConstructionError (Rule Char) :=
  match Regex.compile source with
  | .ok compiled => .ok (bare (Parser.pattern compiled))
  | .error _ => .error .expression

def sequence (items : List Value) : Rule Value := ofList (Parser.sequence items)

/-- A rule that is only ever used for its dynamic values. -/
def ofNative {β : Type} [ToValue β] [Rendered β] (p : Parser Char β) : Rule Char :=
  ofValue (native p).packed

def comment : Rule Char := ofNative Grammar.comment

def comments : Rule Char := ofNative Grammar.comments

def doc : Rule Char := ofNative Grammar.doc

end Rule
end ParseFlow.Dynamic
