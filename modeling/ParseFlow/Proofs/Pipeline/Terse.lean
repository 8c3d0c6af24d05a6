import Mathlib.Order.Bounds.Basic
import ParseFlow.Proofs.Pipeline.Prompt
import ParseFlow.Proofs.Pipeline.Session

/-!
# What comes of the first items alone

A prompt machine that asks and is told that there are no more items reports the end at once, also if
it is a chain and whatever it has gone through before. So what it puts out of the first items alone
is what it puts out of the whole input before it reads on, and an output that is received after some
reads comes of no fewer items.
-/
namespace ParseFlow.Pipeline

variable {ω α β γ : Type}

/-! ## Terse machines -/

namespace Machine

/-- The ways in which a machine goes on that is ready at once and, when it asks, has nothing left to
put out. -/
structure Terse (m : Machine ω α β) (going : Next m.State → Prop) : Prop where
  ready : ∃ events, m.start.events = .ready :: events
  start : going m.start.next
  goOn : ∀ x answer, going x → going (m.goOn x answer).next
  closed : going .closed
  told_end : ∀ s, going (.ask s) → ∃ after, (m.feed s none).events = .answer none :: after

section Session

variable {m : Machine ω α β} {going : Next m.State → Prop}

theorem outputs_session_of_ended {turn : Turn ω β m.State}
    (h : ∃ after, turn.events = .answer none :: after) (input : Nat → Option α)
    (steps asked : Nat) : outputs (m.session input steps asked turn) = [] ∧
      ∀ n, outputsWithin n (m.session input steps asked turn) = [] := by
  obtain ⟨events, next⟩ := turn
  obtain ⟨after, rfl⟩ := h
  cases steps with
  | zero => exact ⟨rfl, fun n => by cases n <;> rfl⟩
  | succ steps => exact ⟨rfl, fun n => outputsWithin_ended _⟩

/-- What a terse machine puts out of the first items alone it puts out of all before it reads on. -/
theorem Terse.outputs_session_limited (h : m.Terse going) (input : Nat → Option α)
    (steps asked n : Nat) {turn : Turn ω β m.State} (ht : going turn.next) :
    outputs (m.session (limited (asked + n) input) steps asked turn) =
      outputsWithin n (m.session input steps asked turn) := by
  induction steps generalizing asked n turn with
  | zero => cases n <;> rfl
  | succ steps ih =>
    obtain ⟨events, x⟩ := turn
    cases events with
    | cons e events =>
      have hbehind : going (⟨events, x⟩ : Turn ω β m.State).next := ht
      have hrest := ih asked n hbehind
      cases e with
      | note w => exact hrest.trans (outputsWithin_note w _).symm
      | ready => exact hrest.trans (outputsWithin_applied _).symm
      | answer out =>
        cases out with
        | none => exact (outputsWithin_ended _).symm
        | some y => exact (congrArg (List.cons y) hrest).trans (outputsWithin_output y _).symm
    | nil =>
      cases ha : x.asks with
      | false =>
        rw [session_resting m ha, session_resting m ha]
        exact ih asked n (h.goOn x none ht)
      | true =>
        obtain ⟨s, rfl⟩ := exists_ask ha
        have hended := outputs_session_of_ended (h.told_end s ht)
        rw [session_asking m ha, session_asking m ha]
        cases n with
        | zero =>
          have hnone : limited (asked + 0) input asked = none := if_neg (Nat.lt_irrefl asked)
          rw [hnone]
          refine (hended _ steps _).1.trans ?_
          cases input asked with
          | none => exact ((hended _ steps _).2 0).symm
          | some x => rfl
        | succ n =>
          have hnow : limited (asked + (n + 1)) input asked = input asked := if_pos (by omega)
          rw [hnow]
          cases input asked with
          | none => exact (hended _ steps _).1.trans ((hended _ steps _).2 (n + 1)).symm
          | some x =>
            have hrest := ih (asked + 1) n (h.goOn (.ask s) (some x) ht)
            rw [Nat.add_assoc, Nat.add_comm 1 n] at hrest
            exact hrest

end Session

/-! ## Chains -/

section Chain

variable {first : Machine ω α β} {second : Machine ω β γ} {going : Next first.State → Prop}
  {onward : Next second.State → Prop}

theorem Terse.relay (h : second.Terse onward) (events : List (Event ω β))
    {z : Next second.State} (hz : onward z) : onward (Machine.relay second events z).next := by
  induction events generalizing z with
  | nil => exact hz
  | cons e events ih =>
    cases z with
    | idle t => rwa [relay_idle]
    | closed => rwa [relay_closed]
    | ask t =>
      cases e with
      | note w => exact ih hz
      | ready => exact ih hz
      | answer out => exact ih (h.goOn (.ask t) out hz)

/-- How a chain goes on when both of its machines do. -/
def chainGoing (going : Next first.State → Prop) (onward : Next second.State → Prop)
    (n : Next (ChainState first.State second.State)) : Prop :=
  ∃ x z, going x ∧ onward z ∧ n = joinNext x z

theorem Terse.chain (h : first.Terse going) (h' : second.Terse onward) :
    (first.chain second).Terse (chainGoing going onward) where
  ready := by
    obtain ⟨events, he⟩ := h.ready
    obtain ⟨others, ho⟩ := h'.ready
    have hstart : (opened second first.start).events = _ ++ _ :=
      congrArg Turn.events (opened_ready_cons second he)
    rw [ho] at hstart
    exact ⟨_, hstart⟩
  start := by
    obtain ⟨events, he⟩ := h.ready
    exact ⟨_, _, h.start, h'.relay events h'.start, congrArg Turn.next (opened_ready_cons second he)⟩
  goOn := by
    rintro _ answer ⟨x, z, hx, hz, rfl⟩
    cases ha : z.asks with
    | true =>
      exact ⟨_, _, h.goOn x answer hx, h'.relay _ hz, congrArg Turn.next (goOn_joinNext x ha answer)⟩
    | false =>
      exact ⟨_, _, h.closed, h'.goOn z none hz, congrArg Turn.next (goOn_joinNext_alone x ha answer)⟩
  closed := ⟨.closed, .closed, h.closed, h'.closed, rfl⟩
  told_end := by
    rintro s ⟨x, z, hx, hz, hs⟩
    have ha : (x.asks && z.asks) = true :=
      (asks_joinNext x z).symm.trans (congrArg Next.asks hs).symm
    cases x with
    | idle a => cases ha
    | closed => cases ha
    | ask a =>
      cases z with
      | idle t => cases ha
      | closed => cases ha
      | ask t =>
        obtain rfl := Next.ask.inj hs
        obtain ⟨after, he⟩ := h.told_end a hx
        obtain ⟨others, ho⟩ := h'.told_end t hz
        show ∃ after, (Machine.relay second (first.feed a none).events (.ask t)).events = _
        rw [he, relay_answer, Turn.behind, ho]
        exact ⟨_, rfl⟩

end Chain
end Machine

/-! ## Operations -/

open Machine

/-- A machine that in no state has anything left to put out. -/
theorem terse_of_feed {m : Machine ω α β} (hready : ∃ events, m.start.events = .ready :: events)
    (h : ∀ s, ∃ after, (m.feed s none).events = .answer none :: after) :
    m.Terse fun _ => True where
  ready := hready
  start := trivial
  goOn := fun _ _ _ => trivial
  closed := trivial
  told_end := fun s _ => h s

theorem terse_take (count : Nat) :
    (Op.take count : Op ω α α).machine.Terse fun _ => True := by
  refine terse_of_feed ?_ fun (left : Nat) => ?_
  · obtain ⟨events, he, -⟩ := (steps_take (ω := ω) (α := α) count).start
    exact ⟨events, he⟩
  · show ∃ after, (if left ≤ 1 then lastly [] else endThenAsk (left - 1) : Turn ω α Nat).events = _
    by_cases h : left ≤ 1
    · exact ⟨[], congrArg Turn.events (if_pos h)⟩
    · exact ⟨[], congrArg Turn.events (if_neg h)⟩

theorem terse_windowed {window : Window} (hs : 0 < window.size) (ht : 0 < window.step)
    (hstep : window.step ≤ window.size) (hrest : window.remainder = false) :
    (Op.windowed window hs ht : Op ω α (List α)).machine.Terse
      fun x : Next (WindowState α) => x = .closed ∨ ∃ buffer, x = .ask (.filling buffer) where
  ready := ⟨[], rfl⟩
  start := .inr ⟨[], rfl⟩
  goOn := by
    rintro _ answer (rfl | ⟨buffer, rfl⟩)
    · exact .inl rfl
    · cases answer with
      | none => exact .inl rfl
      | some x =>
        show _ ∨ ∃ _, (feedWindow window (.filling buffer) (some x) : Turn ω _ _).next = _
        rw [feedWindow, if_pos hstep]
        by_cases h : (buffer ++ [x]).length < window.size
        · exact .inr ⟨_, congrArg Turn.next (if_pos h)⟩
        · exact .inr ⟨_, congrArg Turn.next (if_neg h)⟩
  closed := .inl rfl
  told_end := by
    rintro s (h | ⟨buffer, h⟩)
    · cases h
    · obtain rfl := Next.ask.inj h
      show ∃ _, (feedWindow window (.filling buffer) none : Turn ω _ _).events = _
      rw [feedWindow, hrest]
      exact ⟨[], rfl⟩

theorem terse_flatMap (f : α → Items β) :
    (flatMapMachine f : Machine ω α β).Terse
      fun x => x = .closed ∨ x = .ask none ∨ ∃ y, x = .idle (some y) where
  ready := ⟨[], rfl⟩
  start := .inr (.inl rfl)
  goOn := by
    rintro _ answer (rfl | rfl | ⟨y, rfl⟩)
    · exact .inl rfl
    · cases answer with
      | none => exact .inl rfl
      | some x =>
        cases hx : f x with
        | listed ys => exact .inr (.inl (congrArg Turn.next (feedFlatMap_listed hx)))
        | endless y => exact .inr (.inr ⟨y, congrArg Turn.next (feedFlatMap_endless hx)⟩)
    · exact .inr (.inr ⟨_, rfl⟩)
  closed := .inl rfl
  told_end := by
    rintro s (h | h | ⟨y, h⟩)
    · cases h
    · obtain rfl := Next.ask.inj h
      exact ⟨[], rfl⟩
    · cases h

theorem Op.terse (op : Op ω α β) (h : op.Prompt) : ∃ going, op.machine.Terse going := by
  cases op with
  | flatMap label f => exact ⟨_, terse_flatMap f⟩
  | take count => exact ⟨_, terse_take count⟩
  | windowed window hs ht => exact ⟨_, terse_windowed hs ht h.1 h.2⟩
  | drop count =>
    refine ⟨_, terse_of_feed ⟨[], rfl⟩ fun left => ?_⟩
    cases left <;> exact ⟨[], rfl⟩
  | dedupe => exact h.elim
  | sort order => exact h.elim
  | sortBy label order => exact h.elim
  | reduce label f seed text => exact h.elim
  | _ => exact ⟨_, terse_of_feed ⟨_, rfl⟩ fun _ => ⟨[], rfl⟩⟩

namespace Transducer

theorem terse (t : Transducer ω α β) (h : t.Prompt) : ∃ going, t.machine.Terse going := by
  induction t with
  | identity => exact ⟨_, terse_of_feed ⟨[], rfl⟩ fun _ => ⟨[], rfl⟩⟩
  | op operation => exact operation.terse h
  | compose first second hf hg =>
    obtain ⟨going, hf⟩ := hf h.1
    obtain ⟨onward, hg⟩ := hg h.2
    exact ⟨_, hf.chain hg⟩

/-! ## The least number of items -/

/-- So many outputs come of the items alone. -/
def Yields (t : Transducer ω α β) (items : List α) (k : Nat) : Prop :=
  ∃ steps, k ≤ (outputs (t.session (Items.listed items).get? steps)).length

section Least

variable {t : Transducer ω α β} (h : t.Prompt) (input : Items α) {k : Nat}

include h

theorem yields_upTo_iff {n : Nat} : t.Yields (input.upTo n) k ↔
    ∃ steps, k ≤ (outputsWithin n (t.session input.get? steps)).length := by
  obtain ⟨going, hterse⟩ := t.terse h
  have hinput : (Items.listed (input.upTo n)).get? = limited (0 + n) input.get? := by
    funext i
    rw [Nat.zero_add, Items.get?_upTo]
  refine exists_congr fun steps => ?_
  rw [hinput, session, hterse.outputs_session_limited input.get? steps 0 n hterse.start, session]

/-- Once an output is received, the items read are the fewest first ones it comes of. -/
theorem isLeast_yields {steps : Nat} (hpos : 0 < k)
    (hk : k ≤ (outputs (t.session input.get? steps)).length) :
    IsLeast {n | t.Yields (input.upTo n) k} (reads (seen k (t.session input.get? steps))) := by
  obtain ⟨least, hleast⟩ := exists_receives hpos hk
  rw [hleast.reads_seen]
  constructor
  · exact (yields_upTo_iff h input).mpr ⟨steps, hleast.le_outputsWithin (Nat.le_refl least)⟩
  · intro n hn
    obtain ⟨more, hmore⟩ := (yields_upTo_iff h input).mp hn
    obtain ⟨m, hle, hm⟩ := exists_receives_within hpos hmore
    have hprefix : t.session input.get? steps <+: t.session input.get? more ∨
        t.session input.get? more <+: t.session input.get? steps :=
      (Nat.le_total steps more).imp (fun hle => t.machine.session_isPrefix hle input.get? 0 _)
        fun hle => t.machine.session_isPrefix hle input.get? 0 _
    rwa [← hleast.reads_unique hm hprefix]

end Least

end Transducer
end ParseFlow.Pipeline
