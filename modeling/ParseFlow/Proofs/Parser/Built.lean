import ParseFlow.Parser.Text
import ParseFlow.Proofs.View.Place

/-!
# Parsers without matchers of the caller's own

A parser is built when it is put together from the primitives by combinators and stages, nested in
any way. The functions in its stages are arbitrary, except that those of a `flatMap` choose among
built parsers; and so are its pipelines. Rules can ask more of the functions and the pipelines.
-/
namespace ParseFlow

open Pipeline

/-- The stretch that a parser went over, if the event tells how a parser fared. -/
def TraceEvent.stretch? : TraceEvent → Option (Nat × Nat)
  | succeeded _ start stop => some (start, stop)
  | failed _ start stopped _ => some (start, stopped)
  | _ => none

namespace Parser

/-- What is asked of the functions and the pipelines in the stages of a parser. -/
structure Rules where
  /-- No function runs a parser: what it leaves in the trace does not tell how one fared. -/
  quiet : Prop
  /-- The pipelines come to an end on all values that they get. -/
  ends : Prop

/-- All values that the parser makes are good. -/
def AllValues {α β : Type} [Item α] (p : Parser α β) (good : β → Prop) : Prop :=
  ∀ ⦃v rest : View α⦄ ⦃b : β⦄, v.Valid → (p.parse v).value = .success b rest → good b

inductive BuiltBy (rules : Rules) : {α : Type} → [Item α] → {β : Type} → Parser α β → Prop
  | string (literal : String) : BuiltBy rules (string literal)
  | regex (compiled : Regex) : BuiltBy rules (longest compiled)
  | pattern (compiled : Regex) : BuiltBy rules (pattern compiled)
  | sequence {α : Type} [Item α] [DecidableEq α] [Text.Rendered α] (items : List α) :
      BuiltBy rules (sequence items)
  | satisfy {α : Type} [Item α] (label : String) (accept : α → Bool) :
      BuiltBy rules (satisfy label accept)
  | any {α : Type} [Item α] : BuiltBy rules (any : Parser α α)
  | end {α : Type} [Item α] : BuiltBy rules («end» : Parser α Unit)
  | then {α β γ : Type} [Item α] {p : Parser α β} {q : Parser α γ} :
      BuiltBy rules p → BuiltBy rules q → BuiltBy rules (p.then q)
  | precededBy {α β γ : Type} [Item α] {core : Parser α β} {opening : Parser α γ} :
      BuiltBy rules core → BuiltBy rules opening → BuiltBy rules (core.precededBy opening)
  | followedBy {α β γ : Type} [Item α] {core : Parser α β} {closing : Parser α γ} :
      BuiltBy rules core → BuiltBy rules closing → BuiltBy rules (core.followedBy closing)
  | between {α β γ δ : Type} [Item α] {core : Parser α β} {opening : Parser α γ}
      {closing : Parser α δ} :
      BuiltBy rules core → BuiltBy rules opening → BuiltBy rules closing →
      BuiltBy rules (core.between opening closing)
  | many {α β : Type} [Item α] {p : Parser α β} : BuiltBy rules p → BuiltBy rules p.many
  | many1 {α β : Type} [Item α] {p : Parser α β} : BuiltBy rules p → BuiltBy rules p.many1
  | repeat {α β : Type} [Item α] {p : Parser α β} {q : Parser α (List β)} {min max : Nat} :
      BuiltBy rules p → p.repeat min max = .ok q → BuiltBy rules q
  | list {α β : Type} [Item α] {parsers : List (Parser α β)} :
      (∀ p ∈ parsers, BuiltBy rules p) → BuiltBy rules (list parsers)
  | pair {α β γ : Type} [Item α] {first : Parser α β} {second : Parser α γ} :
      BuiltBy rules first → BuiltBy rules second → BuiltBy rules (pair first second)
  | triple {α β γ δ : Type} [Item α] {first : Parser α β} {second : Parser α γ}
      {third : Parser α δ} :
      BuiltBy rules first → BuiltBy rules second → BuiltBy rules third →
      BuiltBy rules (triple first second third)
  | tuple {α β : Type} [Item α] {n : Nat} {parsers : List (Parser α β)}
      {q : Parser α (Vector β n)} :
      (∀ p ∈ parsers, BuiltBy rules p) → tuple n parsers = .ok q → BuiltBy rules q
  | map {α β γ : Type} [Item α] {p : Parser α β} (label : String) (f : β → γ) :
      BuiltBy rules p → BuiltBy rules (p.map label f)
  | mapTraced {α β γ : Type} [Item α] {p : Parser α β} (label : String) {f : β → Traced γ} :
      BuiltBy rules p → (rules.quiet → ∀ b, ∀ e ∈ (f b).events, e.stretch? = none) →
      BuiltBy rules (p.mapTraced label f)
  | flatMap {α β γ : Type} [Item α] {p : Parser α β} (label : String) {f : β → Parser α γ} :
      BuiltBy rules p → (∀ b, BuiltBy rules (f b)) → BuiltBy rules (p.flatMap label f)
  | filter {α β : Type} [Item α] {p : Parser α β} (label : String) (keep : β → Bool) :
      BuiltBy rules p → BuiltBy rules (p.filter label keep)
  /-- The items that are found in the value go through a pipeline; `pipe` takes those of a list. -/
  | pipe {α β γ δ ω : Type} [Item α] {p : Parser α β} (items : β → Items γ)
      (t : Transducer ω γ δ) :
      BuiltBy rules p → (rules.ends → p.AllValues fun b => (t.collect (items b)).isSome) →
      BuiltBy rules (p.pipeItems items t)
  | thread {α β γ ω : Type} [Item α] {p : Parser α β} (t : Transducer ω β γ) :
      BuiltBy rules p → (rules.ends → p.AllValues fun b => (t.applyValue b).isSome) →
      BuiltBy rules (p.thread t)

/-- A parser that is built, with whatever functions and pipelines in its stages. -/
abbrev Built {α β : Type} [Item α] (p : Parser α β) : Prop := BuiltBy ⟨False, False⟩ p

/-- A regular expression that could be compiled is matched by its longest match. -/
theorem built_of_regex {source : String} {p : Parser Char String}
    (h : Parser.regex source = .ok p) : Built p := by
  unfold Parser.regex at h
  split at h
  · cases h
    exact .regex _
  · cases h

end Parser
end ParseFlow
