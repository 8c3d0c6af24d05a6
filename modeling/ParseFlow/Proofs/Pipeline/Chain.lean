import Mathlib.Logic.Basic
import ParseFlow.Proofs.Pipeline.Collecting

/-!
# Chains of machines

What a chain does in a single turn. The events of the first machine pass through the second one by
one, as long as it asks; a chain goes on with its first machine as long as the second asks, and
otherwise with the second alone.
-/
namespace ParseFlow.Pipeline

variable {ω α β γ σ τ : Type}

namespace Machine

/-- The work of the second machine during a turn of the first. -/
def joined (second : Machine ω β γ) (turn : Turn ω β σ) (next : Next second.State) :
    Turn ω γ (ChainState σ second.State) :=
  let rest := relay second turn.events next
  ⟨rest.events, joinNext turn.next rest.next⟩

section Relay

variable (second : Machine ω β γ)

theorem relay_answer (out : Option β) (events : List (Event ω β)) (t : second.State) :
    relay second (.answer out :: events) (.ask t) =
      (relay second events (second.feed t out).next).behind (second.feed t out).events := rfl

theorem relay_idle (events : List (Event ω β)) (t : second.State) :
    relay second events (.idle t) = ⟨[], .idle t⟩ := by
  cases events with
  | nil => rfl
  | cons e events => cases e <;> rfl

theorem relay_closed (events : List (Event ω β)) :
    relay second events .closed = ⟨[], .closed⟩ := by
  cases events with
  | nil => rfl
  | cons e events => cases e <;> rfl

theorem relay_resting (events : List (Event ω β)) {z : Next second.State} (hz : z.asks = false) :
    relay second events z = ⟨[], z⟩ := by
  cases z with
  | ask t => cases hz
  | idle t => exact relay_idle second events t
  | closed => exact relay_closed second events

theorem relay_append (events others : List (Event ω β)) (next : Next second.State) :
    relay second (events ++ others) next =
      (relay second others (relay second events next).next).behind
        (relay second events next).events := by
  induction events generalizing next with
  | nil => cases next <;> rfl
  | cons e events ih =>
    cases next with
    | idle t => rw [relay_idle, relay_idle, relay_idle]; rfl
    | closed => rw [relay_closed, relay_closed, relay_closed]; rfl
    | ask t =>
      cases e with
      | note w => exact congrArg (Turn.behind [.note w]) (ih (.ask t))
      | ready => exact ih (.ask t)
      | answer out =>
        rw [List.cons_append, relay_answer, relay_answer, ih]
        exact congrArg (Turn.mk · _) (List.append_assoc _ _ _).symm

end Relay

section GoOn

variable {first : Machine ω α β} {second : Machine ω β γ}

theorem asks_map (f : σ → τ) (x : Next σ) : (x.map f).asks = x.asks := by
  cases x <;> rfl

theorem exists_ask {x : Next σ} (h : x.asks = true) : ∃ s, x = .ask s := by
  cases x with
  | ask s => exact ⟨s, rfl⟩
  | idle s => cases h
  | closed => cases h

theorem asks_joinNext (x : Next σ) (z : Next τ) :
    (joinNext x z).asks = (x.asks && z.asks) := by
  cases x <;> cases z <;> rfl

/-- A chain goes on with its first machine as long as the second asks. -/
theorem goOn_joinNext (x : Next first.State) {z : Next second.State} (hz : z.asks = true)
    (answer : Option α) :
    (first.chain second).goOn (joinNext x z) answer = joined second (first.goOn x answer) z := by
  cases z with
  | ask t =>
    cases x with
    | ask s => rfl
    | idle s => rfl
    | closed =>
      -- The second machine is told that nothing more comes.
      refine congrArg₂ Turn.mk (List.append_nil _).symm ?_
      show ((second.feed t none).next.map .alone).resting =
        joinNext .closed (second.feed t none).next
      cases (second.feed t none).next <;> rfl
  | idle t => cases hz
  | closed => cases hz

/-- Otherwise the second machine goes on alone. -/
theorem goOn_joinNext_alone (x : Next first.State) {z : Next second.State} (hz : z.asks = false)
    (answer : Option α) :
    (first.chain second).goOn (joinNext x z) answer =
      ⟨(second.goOn z none).events, joinNext .closed (second.goOn z none).next⟩ := by
  cases z with
  | ask t => cases hz
  | idle t =>
    refine congrArg (Turn.mk (second.feed t none).events) ?_
    show ((second.feed t none).next.map .alone).resting = joinNext .closed (second.feed t none).next
    cases (second.feed t none).next <;> rfl
  | closed => rfl

theorem goOn_opening {x : Next first.State} (hx : x ≠ .closed) (answer : Option α) :
    (first.chain second).goOn (x.map .opening) answer = opened second (first.goOn x answer) := by
  cases x with
  | ask s => rfl
  | idle s => rfl
  | closed => exact absurd rfl hx

end GoOn

end Machine
end ParseFlow.Pipeline
