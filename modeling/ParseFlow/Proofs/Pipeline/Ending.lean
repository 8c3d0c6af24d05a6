import ParseFlow.Proofs.Pipeline.Cutting
import ParseFlow.Proofs.Pipeline.Settling

/-!
# Behind the end

Once a pipeline has answered that it has ended it answers so for good. Some operations close; others
go on asking their input and rely on it that it stays ended; a pairing whose partner has ended reads
on, and drops what it reads. A pull behind the end is answered like every other one, unless it reads
on for an item that never comes, in an input that does not end.
-/
namespace ParseFlow.Pipeline

variable {ω α β σ : Type}

/-! ## Operations -/

namespace Turn

section Clears

variable {settled : Next σ → Prop}

end Clears

end Turn

namespace Machine

section Kinds

variable {m : Machine ω α β} (h : m.Orderly)

end Kinds

section Steady

variable {initial : σ} {feed : σ → Option α → Turn ω β σ}
  (h : (steady initial feed : Machine ω α β).Orderly)

end Steady

end Machine

open Machine Turn

/-- How a pull is answered: with an item, or with nothing if the sequence has ended. -/
def Happening.answer? : Happening ω α β → Option (Option β)
  | output y => some (some y)
  | ended => some none
  | _ => none

/-- The answers to the pulls, one after the other. -/
def answers (session : List (Happening ω α β)) : List (Option β) :=
  session.filterMap Happening.answer?

section Answers

end Answers

namespace Machine

section Session

variable {m : Machine ω α β} {h : m.Orderly} {settled : Bool → Next m.State → Prop}
  (hs : m.Settling h settled) (input : Sequence α)

include hs

end Session

/-! ## Progress -/

/-- In some number of steps so many pulls are answered, or so many items are read. -/
def Progresses (m : Machine ω α β) (input : Nat → Option α) (pulls items asked : Nat)
    (turn : Turn ω β m.State) : Prop :=
  ∃ steps, pulls ≤ (answers (m.session input steps asked turn)).length ∨
    items ≤ reads (m.session input steps asked turn)

section Progress

variable {m : Machine ω α β} {input : Nat → Option α} {asked : Nat}

theorem Progresses.mono {pulls items fewer less : Nat} {turn : Turn ω β m.State}
    (h : m.Progresses input pulls items asked turn) (hp : fewer ≤ pulls) (hi : less ≤ items) :
    m.Progresses input fewer less asked turn := by
  obtain ⟨steps, hsteps⟩ := h
  exact ⟨steps, hsteps.imp (Nat.le_trans hp) (Nat.le_trans hi)⟩

end Progress

end Machine

namespace Transducer

/-- A pairing whose partner has ended reads on, and no item comes back. -/
example :
    let t : Transducer Unit Nat (Nat × Nat) := (drop 1).compose (zip (.ofList [7]) "[7]")
    t.session (fun i => some i) 8 =
        [.applied, .read 0, .read 1, .output (1, 7), .read 2, .ended, .read 3, .ended] ∧
      answers (t.session (fun i => some i) 8) = [some (1, 7), none, none] := by
  decide

end Transducer
end ParseFlow.Pipeline
