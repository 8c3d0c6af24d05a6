import ParseFlow.View.Basic

/-!
# Outcomes of a parse

An outcome is a success with a value or a failure with a reason; both hold the rest of the input at
the position where matching stopped. Failure is data, and every step after it leaves it alone. A
parse whose pipeline goes on without end has no outcome that a caller could ever see; it is kept here
as a third kind, which every step leaves alone too.
-/
namespace ParseFlow

open Text

inductive Outcome (α β : Type) where
  | success (value : β) (rest : View α)
  | failure (reason : String) (rest : View α)
  /-- The parse never returns; `rest` is where it had got to. -/
  | endless (rest : View α)

/-- A failed parse as an error. -/
structure ParseFailure where
  reason : String
  offset : Nat
  deriving DecidableEq, Repr

def ParseFailure.message (e : ParseFailure) : String :=
  s!"parse failed at offset {e.offset}: {e.reason}"

namespace Outcome
variable {α β γ δ : Type}

def isSuccess : Outcome α β → Bool
  | success _ _ => true
  | failure _ _ => false
  | endless _ => false

def isFailure : Outcome α β → Bool
  | success _ _ => false
  | failure _ _ => true
  | endless _ => false

/-- Whether the parse returns. -/
def returns (outcome : Outcome α β) : Bool := outcome.isSuccess || outcome.isFailure

def value? : Outcome α β → Option β
  | success value _ => some value
  | failure _ _ => none
  | endless _ => none

def reason? : Outcome α β → Option String
  | success _ _ => none
  | failure reason _ => some reason
  | endless _ => none

/-- The input that is left, whether the parse succeeded or not. -/
def rest : Outcome α β → View α
  | success _ rest => rest
  | failure _ rest => rest
  | endless rest => rest

/-- A success with a value, or the parse that goes on for ever if the value never comes. -/
def ofValue? (value? : Option β) (rest : View α) : Outcome α β :=
  match value? with
  | some value => success value rest
  | none => endless rest

/-- Rewrites the value of a success. -/
def map (f : β → γ) : Outcome α β → Outcome α γ
  | success value rest => success (f value) rest
  | failure reason rest => failure reason rest
  | endless rest => endless rest

/-- Goes on from a success; what `f` returns replaces it, the rest included. -/
def flatMap (outcome : Outcome α β) (f : β → View α → Outcome α γ) : Outcome α γ :=
  match outcome with
  | success value rest => f value rest
  | failure reason rest => failure reason rest
  | endless rest => endless rest

/-- What a caller gets back, if the parse returns. -/
def toExcept : Outcome α β → Option (Except ParseFailure (β × View α))
  | success value rest => some (.ok (value, rest))
  | failure reason rest => some (.error ⟨reason, rest.offset⟩)
  | endless _ => none

theorem map_success (f : β → γ) (value : β) (rest : View α) :
    (success value rest).map f = success (f value) rest :=
  rfl

theorem map_map (outcome : Outcome α β) (f : β → γ) (g : γ → δ) :
    (outcome.map f).map g = outcome.map fun value => g (f value) := by
  cases outcome <;> rfl

theorem map_flatMap (outcome : Outcome α β) (f : β → View α → Outcome α γ)
    (g : γ → δ) :
    (outcome.flatMap f).map g = outcome.flatMap fun value rest => (f value rest).map g := by
  cases outcome <;> rfl

theorem flatMap_map (outcome : Outcome α β) (f : β → γ)
    (g : γ → View α → Outcome α δ) :
    (outcome.map f).flatMap g = outcome.flatMap fun value => g (f value) := by
  cases outcome <;> rfl

theorem flatMap_assoc (outcome : Outcome α β) (f : β → View α → Outcome α γ)
    (g : γ → View α → Outcome α δ) :
    (outcome.flatMap f).flatMap g =
      outcome.flatMap fun value rest => (f value rest).flatMap g := by
  cases outcome <;> rfl

theorem flatMap_success (outcome : Outcome α β) (f : β → γ) :
    (outcome.flatMap fun value rest => success (f value) rest) = outcome.map f := by
  cases outcome <;> rfl

theorem flatMap_success_self (outcome : Outcome α β) :
    (outcome.flatMap fun value rest => success value rest) = outcome := by
  cases outcome <;> rfl

theorem map_eq_success_iff {outcome : Outcome α β} {f : β → γ} {found : γ} {left : View α} :
    outcome.map f = success found left ↔
      ∃ value, outcome = success value left ∧ f value = found := by
  constructor
  · intro h
    cases outcome with
    | success value rest => cases h; exact ⟨value, rfl, rfl⟩
    | failure reason rest => cases h
    | endless rest => cases h
  · rintro ⟨value, rfl, rfl⟩
    rfl

theorem flatMap_eq_success_iff {outcome : Outcome α β} {f : β → View α → Outcome α γ} {found : γ}
    {left : View α} : outcome.flatMap f = success found left ↔
      ∃ value rest, outcome = success value rest ∧ f value rest = success found left := by
  cases outcome with
  | success value rest =>
    constructor
    · exact fun h => ⟨value, rest, rfl, h⟩
    · rintro ⟨_, _, ⟨⟩, h⟩
      exact h
  | failure reason rest => exact ⟨nofun, by rintro ⟨_, _, ⟨⟩, _⟩⟩
  | endless rest => exact ⟨nofun, by rintro ⟨_, _, ⟨⟩, _⟩⟩

theorem returns_map (outcome : Outcome α β) (f : β → γ) :
    (outcome.map f).returns = outcome.returns := by
  cases outcome <;> rfl

theorem returns_flatMap {outcome : Outcome α β} {f : β → View α → Outcome α γ}
    (h : outcome.returns)
    (hf : ∀ value rest, outcome = success value rest → (f value rest).returns) :
    (outcome.flatMap f).returns := by
  cases outcome with
  | success value rest => exact hf value rest rfl
  | failure reason rest => rfl
  | endless rest => cases h

theorem returns_ofValue? {value? : Option β} (h : value?.isSome) (rest : View α) :
    (ofValue? value? rest).returns := by
  cases value? with
  | some value => rfl
  | none => cases h

theorem isFailure_map (outcome : Outcome α β) (f : β → γ) :
    (outcome.map f).isFailure = outcome.isFailure := by
  cases outcome <;> rfl

theorem isSome_value? (outcome : Outcome α β) : outcome.value?.isSome = outcome.isSuccess := by
  cases outcome <;> rfl

/-- A success is known by its value and its rest. -/
theorem eq_success {outcome : Outcome α β} {value : β} (h : outcome.value? = some value) :
    outcome = success value outcome.rest := by
  cases outcome with
  | success found rest => cases h; rfl
  | failure reason rest => cases h
  | endless rest => cases h

theorem value?_map (outcome : Outcome α β) (f : β → γ) :
    (outcome.map f).value? = outcome.value?.map f := by
  cases outcome <;> rfl

theorem value?_flatMap_eq_some {outcome : Outcome α β} {f : β → View α → Outcome α γ} {found : γ} :
    (outcome.flatMap f).value? = some found ↔
      ∃ value rest, outcome = success value rest ∧ (f value rest).value? = some found := by
  cases outcome with
  | success value rest =>
    constructor
    · exact fun h => ⟨value, rest, rfl, h⟩
    · rintro ⟨_, _, heq, h⟩
      cases heq
      exact h
  | failure reason rest => simp [flatMap, value?]
  | endless rest => simp [flatMap, value?]

/-- Same kind, same value or reason, and rests with the same contents. -/
def sameAs [Item α] [BEq α] [BEq β] : Outcome α β → Outcome α β → Bool
  | success v r, success w s => v == w && r.sameContents s
  | failure v r, failure w s => v == w && r.sameContents s
  | _, _ => false

instance [Item α] [Rendered β] : Rendered (Outcome α β) where
  render
    | success value rest => called "Success" [render value, rest.display]
    | failure reason rest => called "Failure" [reason, rest.display]
    | endless rest => called "Endless" [rest.display]

end Outcome
end ParseFlow
