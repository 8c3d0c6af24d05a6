import ParseFlow.Proofs.Pipeline.Course
import ParseFlow.Proofs.Pipeline.Receiving

/-!
# Machines that keep to a course

A machine keeps to a course if each of its turns shows the effects of the item that was read, and
nothing more before the end or the next read. Two such machines keep, as a chain, to the course of
the second over the first: the effects of one turn pass through the second one by one. The story of
such a machine is what its course tells, up to the end.
-/
namespace ParseFlow.Pipeline

variable {ω α β γ σ : Type}

/-- The turn shows the effects, and then the end if the run is over; otherwise the next pull reads
the input, in a state of the given kind. -/
structure Turn.Shows (stands : σ → Prop) (effects : List (Effect ω β)) (isOver : Bool)
    (turn : Turn ω β σ) : Prop where
  ended : isOver = true →
    ∃ after, turn.events = effects.map Effect.event ++ .answer none :: after
  asks : isOver = false →
    turn.events = effects.map Effect.event ∧ ∃ s, turn.next = .ask s ∧ stands s

section Shows

variable {stands : σ → Prop} {effects : List (Effect ω β)} {turn : Turn ω β σ}

theorem Turn.Shows.of_ended
    (h : ∃ after, turn.events = effects.map Effect.event ++ .answer none :: after) :
    turn.Shows stands effects true := by
  constructor
  · intro _
    exact h
  · intro ho
    cases ho

theorem Turn.Shows.of_asks (he : turn.events = effects.map Effect.event)
    (hs : ∃ s, turn.next = .ask s ∧ stands s) : turn.Shows stands effects false := by
  constructor
  · intro ho
    cases ho
  · intro _
    exact ⟨he, hs⟩

end Shows

theorem Turn.Shows.behind {stands : σ → Prop} {effects : List (Effect ω β)} {isOver : Bool}
    {turn : Turn ω β σ} (h : turn.Shows stands effects isOver) (others : List (Effect ω β)) :
    (turn.behind (others.map Effect.event)).Shows stands (others ++ effects) isOver := by
  constructor
  · intro ho
    obtain ⟨after, he⟩ := h.ended ho
    refine ⟨after, ?_⟩
    rw [Turn.behind, he, List.map_append, List.append_assoc]
  · intro ho
    obtain ⟨he, hnext⟩ := h.asks ho
    refine ⟨?_, hnext⟩
    rw [Turn.behind, he, List.map_append]

namespace Machine

/-- The machine keeps to the course, standing in states of the given kind when it asks. -/
structure Keeps (m : Machine ω α β) (c : Course ω α β) (stands : List α → m.State → Prop) :
    Prop where
  start : ∃ events, m.start.events = .ready :: events ∧
    (⟨events, m.start.next⟩ : Turn ω β m.State).Shows (stands []) c.opening (c.isOver [])
  feed_some : ∀ before s x, c.isOver before = false → stands before s →
    (m.feed s (some x)).Shows (stands (before ++ [x])) (c.gives before x) (c.isOver (before ++ [x]))
  feed_none : ∀ before s, stands before s → ∃ after, (m.feed s none).events = .answer none :: after

/-! ## Chains -/

section Chain

variable {second : Machine ω β γ} {d : Course ω β γ} {stands : List β → second.State → Prop}

/-- Effects pass through the second machine as through its course: either it reports the end, or it
asks again with what comes behind them still to be passed. -/
theorem Keeps.relay_effects (hk : second.Keeps d stands) (hd : d.Sound)
    (effects : List (Effect ω β)) (after : List (Event ω β)) {before : List β} {t : second.State}
    (hb : d.isOver before = false) (ht : stands before t) :
    (d.isOver (before ++ put effects) = true ∧
      ∃ others, (relay second (effects.map Effect.event ++ after) (.ask t)).events =
        (d.passed before effects).map Effect.event ++ .answer none :: others) ∨
    (d.isOver (before ++ put effects) = false ∧
      ∃ u, stands (before ++ put effects) u ∧
        relay second (effects.map Effect.event ++ after) (.ask t) =
          (relay second after (.ask u)).behind ((d.passed before effects).map Effect.event)) := by
  induction effects generalizing before t with
  | nil =>
    refine .inr ?_
    rw [put, List.filterMap_nil, List.append_nil]
    exact ⟨hb, t, ht, rfl⟩
  | cons e effects ih =>
    cases e with
    | note w =>
      rw [Course.passed_note hb]
      rcases ih hb ht with ⟨ho, others, he⟩ | ⟨ho, u, hu, he⟩
      · refine .inl ⟨ho, others, ?_⟩
        show .note w :: (relay second (effects.map Effect.event ++ after) (.ask t)).events = _
        rw [he]
        rfl
      · exact .inr ⟨ho, u, hu, congrArg (Turn.behind [.note w]) he⟩
    | output y =>
      have hput : before ++ put (.output y :: effects) = before ++ [y] ++ put effects :=
        List.append_cons before y (put effects)
      have hs := hk.feed_some before t y hb ht
      rw [Course.passed_output hb, hput, List.map_append]
      cases ho : d.isOver (before ++ [y]) with
      | true =>
        obtain ⟨others, he⟩ := hs.ended ho
        refine .inl ⟨hd.over_append ho _, ?_⟩
        rw [Course.passed_over ho, List.map_nil, List.append_nil, List.map_cons, List.cons_append]
        rw [Effect.event, relay_answer, Turn.behind, he, List.append_assoc]
        exact ⟨_, rfl⟩
      | false =>
        obtain ⟨he, u, hu, hstands⟩ := hs.asks ho
        have hrelay :
            relay second ((Effect.output y :: effects).map Effect.event ++ after) (.ask t) =
              (relay second (effects.map Effect.event ++ after) (.ask u)).behind
                ((d.gives before y).map Effect.event) := by
          rw [List.map_cons, List.cons_append, Effect.event, relay_answer, he, hu]
        rw [hrelay]
        rcases ih ho hstands with ⟨ho, others, hr⟩ | ⟨ho, v, hv, hr⟩
        · refine .inl ⟨ho, others, ?_⟩
          rw [Turn.behind, hr, List.append_assoc]
        · refine .inr ⟨ho, v, hv, ?_⟩
          rw [hr, Turn.behind, Turn.behind, Turn.behind, List.append_assoc]

/-- The states in which a chain asks when both machines keep to courses: what the first has made of
the items is what the second has read. -/
def chainStands {first : Machine ω α β} (firstStands : List α → first.State → Prop)
    (made : List α → List β) (stands : List β → second.State → Prop) (before : List α) :
    ChainState first.State second.State → Prop
  | .both s t => firstStands before s ∧ stands (made before) t
  | _ => False

variable {first : Machine ω α β} {c : Course ω α β} {firstStands : List α → first.State → Prop}

theorem Keeps.joined_shows (hk : second.Keeps d stands) (hd : d.Sound) {items : List α}
    {effects : List (Effect ω β)} {isOver : Bool} {turn : Turn ω β first.State}
    (h : turn.Shows (firstStands items) effects isOver) {before : List β} {t : second.State}
    (hb : d.isOver before = false) (ht : stands before t)
    (hmade : c.made items = before ++ put effects) :
    (joined second turn (.ask t)).Shows (chainStands firstStands c.made stands items)
      (d.passed before effects) (isOver || d.isOver (c.made items)) := by
  rw [hmade]
  cases isOver with
  | true =>
    obtain ⟨after, he⟩ := h.ended rfl
    rw [Bool.true_or, joined, he]
    refine .of_ended ?_
    rcases hk.relay_effects hd effects (.answer none :: after) hb ht with
      ⟨-, others, hr⟩ | ⟨-, u, hu, hr⟩
    · exact ⟨others, hr⟩
    · obtain ⟨others, hn⟩ := hk.feed_none _ u hu
      rw [hr, relay_answer, hn]
      exact ⟨_, rfl⟩
  | false =>
    obtain ⟨he, s, hs, hstands⟩ := h.asks rfl
    have hr := hk.relay_effects hd effects [] hb ht
    rw [List.append_nil, ← he] at hr
    rw [Bool.false_or]
    rcases hr with ⟨ho, others, hr⟩ | ⟨ho, u, hu, hr⟩
    · rw [ho]
      exact .of_ended ⟨others, hr⟩
    · rw [ho, joined, hr, hs]
      refine .of_asks (List.append_nil _) ⟨.both s u, rfl, hstands, ?_⟩
      rw [hmade]
      exact hu

/-- A chain keeps to the course of the second machine over that of the first. -/
theorem Keeps.chain (hf : first.Keeps c firstStands) (hc : c.Sound) (hk : second.Keeps d stands)
    (hd : d.Sound) :
    (first.chain second).Keeps (c.andThen d) (chainStands firstStands c.made stands) := by
  constructor
  · obtain ⟨events, he, hs⟩ := hf.start
    obtain ⟨others, ho, ht⟩ := hk.start
    have hstart : (first.chain second).start =
        (joined second ⟨events, first.start.next⟩ second.start.next).behind
          (.ready :: others) := by
      rw [← ho]
      show opened second first.start = _
      rw [opened, he]
      rfl
    rw [hstart]
    refine ⟨_, rfl, ?_⟩
    show Turn.Shows _ (d.opening ++ d.passed [] c.opening) (c.isOver [] || d.isOver (c.made []))
      ((joined second ⟨events, first.start.next⟩ second.start.next).behind others)
    cases hover : d.isOver [] with
    | true =>
      obtain ⟨after, hafter⟩ := ht.ended hover
      have hmade : d.isOver (c.made []) = true := hd.over_append hover (c.made [])
      rw [hmade, Bool.or_true, Course.passed_over hover, List.append_nil]
      refine .of_ended ?_
      dsimp only at hafter
      rw [Turn.behind, hafter, List.append_assoc]
      exact ⟨_, rfl⟩
    | false =>
      obtain ⟨hothers, t, hnext, hstands⟩ := ht.asks hover
      dsimp only at hothers
      rw [hnext, hothers]
      exact (hk.joined_shows hd hs hover hstands hc.made_nil).behind d.opening
  · rintro before (s | ⟨s, t⟩ | t) x hb hstands
    · exact hstands.elim
    · obtain ⟨hbc, hbd⟩ := Bool.or_eq_false_iff.mp hb
      exact hk.joined_shows hd (hf.feed_some before s x hbc hstands.1) hbd hstands.2
        (hc.made_concat before x hbc)
    · exact hstands.elim
  · rintro before (s | ⟨s, t⟩ | t) hstands
    · exact hstands.elim
    · obtain ⟨after, he⟩ := hf.feed_none before s hstands.1
      obtain ⟨others, ho⟩ := hk.feed_none _ t hstands.2
      show ∃ after, (relay second (first.feed s none).events (.ask t)).events = _
      rw [he, relay_answer, Turn.behind, ho]
      exact ⟨_, rfl⟩
    · exact hstands.elim

end Chain

end Machine

/-! ## Stories -/

/-- The same happens in both, up to the first end that is reported. -/
def SameUntilEnd (story other : List (Happening ω α β)) : Prop :=
  story = other ∨ ∃ before rest others,
    story = before ++ .ended :: rest ∧ other = before ++ .ended :: others

section SameUntilEnd

variable {story other : List (Happening ω α β)}

theorem SameUntilEnd.behind (h : SameUntilEnd story other) (before : List (Happening ω α β)) :
    SameUntilEnd (before ++ story) (before ++ other) := by
  rcases h with rfl | ⟨first, rest, others, rfl, rfl⟩
  · exact .inl rfl
  · exact .inr ⟨before ++ first, rest, others, (List.append_assoc ..).symm,
      (List.append_assoc ..).symm⟩

/-- Nothing is seen of what stands behind the end. -/
theorem seen_append_ended (pulls : Nat) (before rest others : List (Happening ω α β)) :
    seen pulls (before ++ .ended :: rest) = seen pulls (before ++ .ended :: others) := by
  induction before generalizing pulls with
  | nil => cases pulls <;> rfl
  | cons h before ih =>
    cases h with
    | read x => rw [List.cons_append, List.cons_append, seen_read, seen_read, ih]
    | note w => rw [List.cons_append, List.cons_append, seen_note, seen_note, ih]
    | applied =>
      cases pulls with
      | zero => rfl
      | succ pulls => exact congrArg (List.cons .applied) (ih (pulls + 1))
    | output y =>
      cases pulls with
      | zero => rfl
      | succ pulls => rw [List.cons_append, List.cons_append, seen, seen, ih pulls]
    | ended => cases pulls <;> rfl

theorem SameUntilEnd.seen_eq (h : SameUntilEnd story other) (pulls : Nat) :
    seen pulls story = seen pulls other := by
  rcases h with rfl | ⟨before, rest, others, rfl, rfl⟩
  · rfl
  · exact seen_append_ended pulls before rest others

end SameUntilEnd

namespace Machine

variable {m : Machine ω α β} {c : Course ω α β} {stands : List α → m.State → Prop}

theorem happening_event (effects : List (Effect ω β)) :
    (effects.map Effect.event).map Event.happening =
      (effects.map Effect.happening : List (Happening ω α β)) := by
  rw [List.map_map]
  refine List.map_congr_left fun e _ => ?_
  cases e <;> rfl

/-- A way to tell what happens from a turn on, with `last` where the input has no more items and the
machine reports the end when told so. -/
structure Tells (m : Machine ω α β)
    (tell : Turn ω β m.State → List α → List (Happening ω α β))
    (last : List (Happening ω α β)) : Prop where
  event : ∀ e events next items,
    tell ⟨e :: events, next⟩ items = e.happening :: tell ⟨events, next⟩ items
  read : ∀ s x items, tell ⟨[], .ask s⟩ (x :: items) = .read x :: tell (m.feed s (some x)) items
  stop : ∀ s, (∃ after, (m.feed s none).events = .answer none :: after) →
    SameUntilEnd last (tell ⟨[], .ask s⟩ [])

theorem tells_story (m : Machine ω α β) : m.Tells m.story [.ended] := by
  constructor
  · intro e events next items
    cases next <;> cases items <;> rfl
  · intro s x items
    rfl
  · rintro s ⟨after, he⟩
    refine .inr ⟨[], [], after.map Event.happening, rfl, ?_⟩
    show (m.feed s none).events.map Event.happening = _
    rw [he]
    rfl

theorem tells_storySoFar (m : Machine ω α β) : m.Tells m.storySoFar [] := by
  constructor
  · intro e events next items
    cases next <;> cases items <;> rfl
  · intro s x items
    rfl
  · intro s _
    exact .inl rfl

section Told

variable {tell : Turn ω β m.State → List α → List (Happening ω α β)}
  {last : List (Happening ω α β)} {before : List α} {effects : List (Effect ω β)}
  {turn : Turn ω β m.State}

theorem Tells.split (h : m.Tells tell last) (events : List (Event ω β)) (next : Next m.State)
    (items : List α) :
    tell ⟨events, next⟩ items = events.map Event.happening ++ tell ⟨[], next⟩ items := by
  induction events with
  | nil => rfl
  | cons e events ih => rw [h.event, ih]; rfl

/-- Where the run is over, what is told begins with the effects and the end. -/
theorem Tells.told_of_over (ht : m.Tells tell last)
    (h : turn.Shows (stands before) effects (c.isOver before)) (ho : c.isOver before = true)
    (items : List α) :
    SameUntilEnd (effects.map Effect.happening ++ c.toldFrom last before items)
      (tell turn items) := by
  obtain ⟨after, he⟩ := h.ended ho
  have hsplit := ht.split turn.events turn.next items
  rw [he, List.map_append, happening_event, List.append_assoc, ← he] at hsplit
  rw [Course.toldFrom_over ho]
  exact .inr ⟨_, _, _, rfl, hsplit⟩

/-- What is told of a machine that keeps to a course, from a turn on, is what the course tells. -/
theorem Keeps.told_from (hk : m.Keeps c stands) (ht : m.Tells tell last)
    (h : turn.Shows (stands before) effects (c.isOver before)) (items : List α) :
    SameUntilEnd (effects.map Effect.happening ++ c.toldFrom last before items)
      (tell turn items) := by
  induction items generalizing before effects turn with
  | nil =>
    cases ho : c.isOver before with
    | true => exact ht.told_of_over h ho []
    | false =>
      obtain ⟨he, s, hs, hstands⟩ := h.asks ho
      have hsplit := ht.split turn.events turn.next []
      rw [he, hs, happening_event, ← he, ← hs] at hsplit
      rw [hsplit, hs, Course.toldFrom_nil ho]
      exact (ht.stop s (hk.feed_none before s hstands)).behind _
  | cons x items ih =>
    cases ho : c.isOver before with
    | true => exact ht.told_of_over h ho (x :: items)
    | false =>
      obtain ⟨he, s, hs, hstands⟩ := h.asks ho
      have hsplit := ht.split turn.events turn.next (x :: items)
      rw [he, hs, happening_event, ← he, ← hs] at hsplit
      rw [hsplit, hs, ht.read, Course.toldFrom_cons ho]
      have hx := ih (hk.feed_some before s x ho hstands)
      exact (hx.behind [.read x]).behind _

theorem Keeps.told (hk : m.Keeps c stands) (ht : m.Tells tell last) (items : List α) :
    SameUntilEnd (c.told last items) (tell m.start items) := by
  obtain ⟨events, he, hs⟩ := hk.start
  have hstart := ht.event .ready events m.start.next items
  rw [← he] at hstart
  show SameUntilEnd _ (tell ⟨m.start.events, m.start.next⟩ items)
  rw [hstart]
  exact (hk.told_from ht hs items).behind [.applied]

end Told

theorem Keeps.log (hk : m.Keeps c stands) (items : List α) :
    SameUntilEnd (c.log items) (m.story m.start items) := hk.told m.tells_story items

theorem Keeps.logSoFar (hk : m.Keeps c stands) (items : List α) :
    SameUntilEnd (c.logSoFar items) (m.storySoFar m.start items) := hk.told m.tells_storySoFar items

end Machine
end ParseFlow.Pipeline
