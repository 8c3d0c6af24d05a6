import ParseFlow.Proofs.Pipeline.Grouping

/-!
# The work that is done when a pipeline is applied

Only `dedupe` does anything before the first pull. A pipeline without it has been applied before it
reads or leaves a note. Where it stands in a pipeline, applying the pipeline does what the stages
before it do to come to their first answer, and nothing more.
-/
namespace ParseFlow.Pipeline

variable {ω α β γ σ : Type}

/-! ## Machines that are ready at once -/

namespace Machine

/-- Nothing happens before the machine is ready. -/
def ReadyAtOnce (turn : Turn ω β σ) : Prop := ∃ after, turn.events = .ready :: after

theorem readyAtOnce_behind_ready (turn : Turn ω β σ) {events : List (Event ω β)}
    (h : ∃ after, events = .ready :: after) : ReadyAtOnce (turn.behind events) := by
  obtain ⟨after, rfl⟩ := h
  exact ⟨after ++ turn.events, rfl⟩

/-- A chain is ready at once if both its machines are. -/
theorem readyAtOnce_opened {second : Machine ω β γ} (hs : ReadyAtOnce second.start)
    {turn : Turn ω β σ} (h : ReadyAtOnce turn) : ReadyAtOnce (opened second turn) := by
  obtain ⟨after, ha⟩ := h
  rw [opened_ready_cons second ha]
  exact readyAtOnce_behind_ready _ hs

theorem session_of_readyAtOnce {m : Machine ω α β} {turn : Turn ω β m.State}
    (h : ReadyAtOnce turn) (input : Nat → Option α) (steps asked : Nat) :
    ∃ told, m.session input (steps + 1) asked turn = .applied :: told := by
  obtain ⟨events, next⟩ := turn
  obtain ⟨after, rfl⟩ := h
  exact ⟨m.session input steps asked ⟨after, next⟩, rfl⟩

/-- An orderly machine that is ready at once has been set up. -/
theorem proceeds_of_readyAtOnce {opening running : Next σ → Prop} {turn : Turn ω β σ}
    (h : turn.SetsUp opening running) {after : List (Event ω β)}
    (ha : turn.events = .ready :: after) :
    (⟨after, turn.next⟩ : Turn ω β σ).Proceeds running := by
  obtain ⟨left, ⟨hl, -⟩ | ⟨others, hl, hp⟩⟩ := h
  · cases left with
    | nil => cases ha.symm.trans hl
    | cons w left => cases ha.symm.trans hl
  · cases left with
    | nil =>
      cases ha.symm.trans hl
      exact hp
    | cons w left => cases ha.symm.trans hl

end Machine

open Machine

theorem Op.readyAtOnce (op : Op ω α β) (h : op.stage ≠ .dedupe) :
    ReadyAtOnce op.machine.start := by
  cases op with
  | take count =>
    by_cases hc : count = 0
    · exact ⟨[.answer none], by simp [machine, hc]⟩
    · exact ⟨[], by simp [machine, hc]⟩
  | dedupe => exact absurd rfl h
  | _ => exact ⟨_, rfl⟩

theorem Transducer.readyAtOnce {t : Transducer ω α β} (h : .dedupe ∉ t.stages) :
    ReadyAtOnce t.machine.start := by
  induction t with
  | identity => exact ⟨[], rfl⟩
  | op operation => exact operation.readyAtOnce fun hd => h (List.mem_singleton.mpr hd.symm)
  | compose first second hf hs =>
    rw [stages, List.mem_append, not_or] at h
    exact readyAtOnce_opened (hs h.2) (hf h.1)

/-! ## Up to the first answer -/

/-- Both sessions do the same without an answer, and where the first one is answered, be it with an
item or the end, the second one has been applied. -/
inductive AppliedOnAnswer : List (Happening ω α β) → List (Happening ω α γ) → Prop where
  | nil : AppliedOnAnswer [] []
  | read {told : List (Happening ω α β)} {others : List (Happening ω α γ)} (x : α) :
    AppliedOnAnswer told others → AppliedOnAnswer (.read x :: told) (.read x :: others)
  | note {told : List (Happening ω α β)} {others : List (Happening ω α γ)} (w : ω) :
    AppliedOnAnswer told others → AppliedOnAnswer (.note w :: told) (.note w :: others)
  | output (y : β) (told : List (Happening ω α β)) (others : List (Happening ω α γ)) :
    AppliedOnAnswer (.output y :: told) (.applied :: others)
  | ended (told : List (Happening ω α β)) (others : List (Happening ω α γ)) :
    AppliedOnAnswer (.ended :: told) (.applied :: others)

section AppliedOnAnswer

variable {told : List (Happening ω α β)} {others : List (Happening ω α γ)}

theorem AppliedOnAnswer.of_eq {told' : List (Happening ω α β)} {others' : List (Happening ω α γ)}
    (h : AppliedOnAnswer told others) (ht : told' = told) (ho : others' = others) :
    AppliedOnAnswer told' others' := by
  rwa [ht, ho]

theorem AppliedOnAnswer.reads (h : AppliedOnAnswer told others) (answer : Option α) :
    AppliedOnAnswer (answer.toList.map .read ++ told) (answer.toList.map .read ++ others) := by
  cases answer with
  | none => exact h
  | some x => exact .read x h

theorem AppliedOnAnswer.answer (out : Option β) (told : List (Happening ω α β))
    (others : List (Happening ω α γ)) :
    AppliedOnAnswer ((Event.answer out).happening :: told) (.applied :: others) := by
  cases out with
  | none => exact .ended told others
  | some y => exact .output y told others

end AppliedOnAnswer

namespace Machine

section Chain

variable {first : Machine ω α β} {second : Machine ω β γ} (hf : first.Orderly)
  {t : second.State} (ht : ∀ out, ReadyAtOnce (second.feed t out))

include hf ht

/-- While the first machine does not answer, a second one that becomes ready with the first answer
shows only what the first one does. -/
theorem session_appliedOnAnswer (input : Nat → Option α) (steps asked : Nat)
    {turn : Turn ω β first.State} (hturn : turn.Proceeds hf.running) :
    AppliedOnAnswer (first.session input steps asked turn)
      ((first.chain second).session input steps asked (joined second turn (.ask t))) := by
  induction steps generalizing asked turn with
  | zero => exact .nil
  | succ steps ih =>
    obtain ⟨events, x⟩ := turn
    obtain ⟨hready, hx⟩ := hturn
    cases events with
    | cons e events =>
      cases e with
      | note w => exact .note w (ih asked ⟨fun hmem => hready (List.mem_cons_of_mem _ hmem), hx⟩)
      | ready => exact absurd List.mem_cons_self hready
      | answer out =>
        have hjoined : ReadyAtOnce (joined second ⟨.answer out :: events, x⟩ (.ask t)) :=
          readyAtOnce_behind_ready _ (ht out)
        obtain ⟨others, ho⟩ :=
          session_of_readyAtOnce (m := first.chain second) hjoined input steps asked
        exact (AppliedOnAnswer.answer out _ others).of_eq rfl ho
    | nil =>
      have hgo : ∀ answer, (first.chain second).goOn (joinNext x (.ask t)) answer =
          joined second (first.goOn x answer) (.ask t) := goOn_joinNext x rfl
      have hasks :
          (joinNext x (.ask t) : Next (ChainState first.State second.State)).asks = x.asks :=
        (asks_joinNext x (.ask t)).trans (Bool.and_true _)
      cases ha : x.asks with
      | true =>
        have hchain : (first.chain second).session input (steps + 1) asked
            ⟨[], joinNext x (.ask t)⟩ = _ := session_asking _ (hasks.trans ha)
        rw [hgo] at hchain
        exact ((ih (asked + 1) (hf.running_goOn x _ hx)).reads (input asked)).of_eq
          (session_asking first ha) hchain
      | false =>
        have hchain : (first.chain second).session input (steps + 1) asked
            ⟨[], joinNext x (.ask t)⟩ = _ := session_resting _ (hasks.trans ha)
        rw [hgo] at hchain
        exact (ih asked (hf.running_goOn x none hx)).of_eq (session_resting first ha) hchain

end Chain

/-- With the first item, or without one, `dedupe` is ready and what stands behind it is set up. -/
theorem readyAtOnce_dedupe_feed [DecidableEq β] {m : Machine ω β γ} (h : ReadyAtOnce m.start)
    (out : Option β) :
    ReadyAtOnce (((Op.dedupe : Op ω β β).machine.chain m).feed (.opening none) out) := by
  refine readyAtOnce_opened h ?_
  cases out with
  | none => exact ⟨[.answer none], rfl⟩
  | some y => exact ⟨[], rfl⟩

end Machine

namespace Transducer

theorem session_of_no_dedupe {t : Transducer ω α β} (h : .dedupe ∉ t.stages)
    (input : Nat → Option α) (steps : Nat) :
    ∃ told, t.session input (steps + 1) = .applied :: told :=
  session_of_readyAtOnce (t.readyAtOnce h) input steps 0

theorem session_dedupe [DecidableEq β] {p : Transducer ω α β} {q : Transducer ω β γ}
    (hp : .dedupe ∉ p.stages) (hq : .dedupe ∉ q.stages) (input : Nat → Option α) (steps : Nat) :
    ∃ told, p.session input (steps + 1) = .applied :: told ∧
      AppliedOnAnswer told ((p.compose (dedupe.compose q)).session input steps) := by
  obtain ⟨ho⟩ := p.orderly
  obtain ⟨after, ha⟩ := p.readyAtOnce hp
  let rest : Turn ω β p.machine.State := ⟨after, p.machine.start.next⟩
  have hp' : p.machine.start = rest.behind [.ready] := congrArg (Turn.mk · _) ha
  have ht : (p.compose (dedupe.compose q)).machine.start =
      joined ((Op.dedupe : Op ω β β).machine.chain q.machine) rest (.ask (.opening none)) :=
    opened_ready_cons _ ha
  have hdedupe := readyAtOnce_dedupe_feed (q.readyAtOnce hq)
  have hchain := session_appliedOnAnswer ho hdedupe input steps 0
    (proceeds_of_readyAtOnce ho.start ha)
  refine ⟨p.machine.session input steps 0 rest, ?_, ?_⟩
  · rw [session, hp']
    rfl
  · rw [session, ht]
    exact hchain

/-- Applying a pipeline without `dedupe` comes before anything else. If just one `dedupe` stands in
a pipeline, then whatever is done before it has been applied is what the stages before the `dedupe`
do to come to their first answer: step by step as they do it, and until they have. -/
theorem applied_before_work :
    (∀ t : Transducer ω α β, .dedupe ∉ t.stages → ∀ input steps,
      ∃ told, t.session input (steps + 1) = .applied :: told) ∧
    ∀ [DecidableEq β] (p : Transducer ω α β) (q : Transducer ω β γ),
      .dedupe ∉ p.stages → .dedupe ∉ q.stages →
      ∀ t, Regrouped t (p.compose (dedupe.compose q)) → ∀ input steps,
        ∃ told, p.session input (steps + 1) = .applied :: told ∧
          AppliedOnAnswer told (t.session input steps) := by
  constructor
  · intro t h input steps
    exact session_of_no_dedupe h input steps
  · intro _ p q hp hq t h input steps
    rw [h.session_eq]
    exact session_dedupe hp hq input steps

/-- The first even number is looked for while the pipeline is applied, and not seen behind. -/
theorem applied_before_work_even :
    let p : Transducer Nat Nat Nat := (inspect "before" id).compose (filter "even" (· % 2 == 0))
    let q : Transducer Nat Nat Nat := inspect "behind" id
    let t := (p.compose dedupe).compose q
    let input : Nat → Option Nat := fun i => some (i + 1)
    .dedupe ∉ p.stages ∧ .dedupe ∉ q.stages ∧ Regrouped t (p.compose (dedupe.compose q)) ∧
      p.session input 6 = [.applied, .read 1, .note 1, .read 2, .note 2, .output 2] ∧
      t.session input 5 = [.read 1, .note 1, .read 2, .note 2, .applied] ∧
      (∃ told, p.session input 6 = .applied :: told ∧ AppliedOnAnswer told (t.session input 5)) ∧
      ∃ told, q.session input 3 = .applied :: told := by
  intro p q t input
  have hp : .dedupe ∉ p.stages := by decide
  have hq : .dedupe ∉ q.stages := by decide
  have hgroup : Regrouped t (p.compose (dedupe.compose q)) := .assoc _ _ _
  refine ⟨hp, hq, hgroup, by decide, by decide, ?_, ?_⟩
  · exact (applied_before_work (α := Nat) (β := Nat)).2 p q hp hq t hgroup input 5
  · exact (applied_before_work (γ := Nat)).1 q hq input 2

end Transducer
end ParseFlow.Pipeline
