import ParseFlow.Proofs.Pipeline.Orderly

/-!
# What a chain puts out

If the first of two machines comes to its end, the chain puts out what the second makes of all that
the first puts out, or goes on without end just as the second does. While the events of a turn pass
through the second machine it does what it would with the items among them; when it rests it goes on
alone, and what it would be fed does not matter any more.
-/
namespace ParseFlow.Pipeline

variable {ω α β γ : Type}

theorem passed_notes (left : List ω) (later : Option (List β)) :
    passed (notes left) later = later := by
  have hpassing : ∀ ys : List β, passing (notes left) ys = ys := by
    intro ys
    induction left with
    | nil => rfl
    | cons w left ih => exact ih
  rw [passed_of_not_ends (not_ends_notes left), funext hpassing]
  exact Option.map_id'

theorem passed_ready (later : Option (List β)) :
    passed [(.ready : Event ω β)] later = later :=
  (passed_of_not_ends (by simp [Ends]) later).trans Option.map_id'

namespace Machine

variable {first : Machine ω α β} {second : Machine ω β γ} (hf : first.Orderly)
  (hg : second.Orderly)

/-- What a chain puts out from a turn on. The states of a chain have their type only by unfolding,
and here they have it as they stand. -/
def chainCollect (first : Machine ω α β) (second : Machine ω β γ)
    (turn : Turn ω γ (ChainState first.State second.State)) (input : Items α) : Option (List γ) :=
  (first.chain second).collectFrom turn input

section ChainCollect

variable (first second) (turn : Turn ω γ (ChainState first.State second.State)) (input : Items α)

theorem chainCollect_split : chainCollect first second turn input =
    passed turn.events (chainCollect first second ⟨[], turn.next⟩ input) :=
  (first.chain second).collectFrom_split turn input

theorem chainCollect_behind (events : List (Event ω γ)) :
    chainCollect first second (turn.behind events) input =
      passed events (chainCollect first second turn input) :=
  (first.chain second).collectFrom_behind events turn input

end ChainCollect

section Alone

include hg

/-- A machine that rests does not read. -/
theorem collectFrom_rests {z : Next second.State} (hz : hg.Reaches z) (ha : z.asks = false)
    (input other : Items β) :
    second.collectFrom ⟨[], z⟩ input = second.collectFrom ⟨[], z⟩ other := by
  let related (turn : Turn ω γ second.State) (_ : Items β) (turn' : Turn ω γ second.State)
      (_ : Items β) : Prop := turn = turn' ∧ hg.Reaches turn.next ∧ turn.next.asks = false
  have hstart : related ⟨[], z⟩ input ⟨[], z⟩ other := ⟨rfl, hz, ha⟩
  refine collectFrom_congr (fun _ _ _ _ h => congrArg Turn.events h.1) ?_ hstart
  rintro turn _ _ _ ⟨rfl, hreaches, hrests⟩
  rw [pull_resting second hrests, pull_resting second hrests]
  exact ⟨rfl, hreaches.goOn hg none, hg.rests _ none hreaches hrests⟩

/-- Where the second machine rests the chain puts out what it does. -/
theorem collectFrom_joinNext_alone (x : Next first.State) {z : Next second.State}
    (hz : hg.Reaches z) (ha : z.asks = false) (input : Items α) (other : Items β) :
    chainCollect first second ⟨[], joinNext x z⟩ input =
      second.collectFrom ⟨[], z⟩ other := by
  let related (turn : Turn ω γ (ChainState first.State second.State)) (_ : Items α)
      (turn' : Turn ω γ second.State) (_ : Items β) : Prop := turn.events = turn'.events ∧
    (∃ x, turn.next = joinNext x turn'.next) ∧ hg.Reaches turn'.next ∧ turn'.next.asks = false
  have hstart : related ⟨[], joinNext x z⟩ input ⟨[], z⟩ other := ⟨rfl, ⟨x, rfl⟩, hz, ha⟩
  refine collectFrom_congr (m := first.chain second) (fun _ _ _ _ h => h.1) ?_ hstart
  rintro ⟨events, _⟩ _ ⟨events', z⟩ _ ⟨-, ⟨x, rfl⟩, hreaches, hrests⟩
  have hchain : (joinNext x z).asks = false := by
    have hz : z.asks = false := hrests
    rw [asks_joinNext, hz, Bool.and_false]
  rw [pull_resting second hrests]
  have hpull := (first.chain second).pull_resting hchain
  simp only [hpull, goOn_joinNext_alone x hrests none]
  exact ⟨rfl, ⟨_, rfl⟩, hreaches.goOn hg none, hg.rests _ none hreaches hrests⟩

end Alone

section Relay

include hg

theorem relay_reaches (events : List (Event ω β)) {z : Next second.State} (hz : hg.Reaches z) :
    hg.Reaches (relay second events z).next := by
  rcases hz with hopen | hrun
  · exact hg.reaches_of_setsUp (relay_setsUp hg events hopen)
  · exact .inr (relay_proceeds hg events hrun).2

/-- What the second machine makes of items that come before the end it has done when their events
have passed. -/
theorem collectFrom_relay {events : List (Event ω β)} (he : ¬ Ends events) (later : List β)
    {z : Next second.State} (hz : hg.Reaches z) :
    second.collectFrom ⟨[], z⟩ (.listed (passing events later)) =
      second.collectFrom (relay second events z) (.listed later) := by
  induction events generalizing z with
  | nil => cases z <;> rfl
  | cons e events ih =>
    cases ha : z.asks with
    | false =>
      rw [relay_resting second _ ha]
      exact collectFrom_rests hg hz ha _ _
    | true =>
      obtain ⟨t, rfl⟩ := exists_ask ha
      cases e with
      | note w =>
        have hrelay : relay second (.note w :: events) (.ask t) =
            (relay second events (.ask t)).behind (notes [w]) := rfl
        rw [hrelay, collectFrom_behind, passed_notes]
        exact ih (mt ends_note.mpr he) hz
      | ready => exact ih (mt ends_ready.mpr he) hz
      | answer out =>
        cases out with
        | none => exact absurd List.mem_cons_self he
        | some y =>
          have hrest := ih (mt ends_some.mpr he) (hz.goOn hg (some y))
          rw [relay_answer, collectFrom_behind]
          refine (collectFrom_ask_cons second t y (passing events later)).trans ?_
          rw [collectFrom_split]
          exact congrArg (passed _) hrest

/-- What the second machine makes of all items before the end it has done when the end has passed. -/
theorem collectFrom_relay_of_ends {events : List (Event ω β)} (he : Ends events) (later : List β)
    (x : Next first.State) {z : Next second.State} (hz : hg.Reaches z) (input : Items α) :
    chainCollect first second (joined second ⟨events, x⟩ z) input =
      second.collectFrom ⟨[], z⟩ (.listed (passing events later)) := by
  induction events generalizing z with
  | nil => cases he
  | cons e events ih =>
    cases ha : z.asks with
    | false =>
      rw [joined, relay_resting second _ ha]
      exact collectFrom_joinNext_alone hg x hz ha _ _
    | true =>
      obtain ⟨t, rfl⟩ := exists_ask ha
      cases e with
      | note w =>
        have hjoined : joined second ⟨.note w :: events, x⟩ (.ask t) =
            (joined second ⟨events, x⟩ (.ask t)).behind (notes [w]) := rfl
        rw [hjoined, chainCollect_behind, passed_notes]
        exact ih (ends_note.mp he) hz
      | ready => exact ih (ends_ready.mp he) hz
      | answer out =>
        have hjoined : joined second ⟨.answer out :: events, x⟩ (.ask t) =
            (joined second ⟨events, x⟩ (second.feed t out).next).behind
              (second.feed t out).events := rfl
        rw [hjoined, chainCollect_behind]
        cases out with
        | some y =>
          have hrest := ih (ends_some.mp he) (hz.goOn hg (some y))
          refine Eq.trans ?_ (collectFrom_ask_cons second t y (passing events later)).symm
          rw [collectFrom_split second]
          exact congrArg (passed _) hrest
        | none =>
          refine Eq.trans ?_ (collectFrom_ask_nil second t).symm
          rw [collectFrom_split second]
          rcases hg.heeds (.ask t) hz rfl with hends | hrests
          · have hends : Ends (second.feed t none).events := hends
            rw [passed_of_ends hends, passed_of_ends hends]
          · have hrests : (second.feed t none).next.asks = false := hrests
            refine congrArg (passed _) ?_
            rw [joined, relay_resting second _ hrests]
            exact collectFrom_joinNext_alone hg x (hz.goOn hg none) hrests _ _

end Relay

/-! ## Chains -/

/-- As long as the second machine asks, the chain pulls as the first machine does. -/
theorem chainCollect_joinNext (x : Next first.State) {z : Next second.State} (hz : z.asks = true)
    (input : Items α) : chainCollect first second ⟨[], joinNext x z⟩ input =
      chainCollect first second (joined second (first.pull x input).1 z) (first.pull x input).2 := by
  refine ((first.chain second).collectFrom_nil (joinNext x z) input).trans ?_
  refine congrArg (fun p => chainCollect first second p.1 p.2) (?_ : _ = (_, _))
  have ha : (joinNext x z).asks = x.asks := by rw [asks_joinNext, hz, Bool.and_true]
  cases hx : x.asks with
  | true =>
    rw [pull_asking first hx]
    refine ((first.chain second).pull_asking (ha.trans hx) input).trans ?_
    exact congrArg (·, input.tail) (goOn_joinNext x hz _)
  | false =>
    rw [pull_resting first hx]
    refine ((first.chain second).pull_resting (ha.trans hx) input).trans ?_
    exact congrArg (·, input) (goOn_joinNext x hz _)

theorem chainCollect_opening {x : Next first.State} (hx : x ≠ .closed) (input : Items α) :
    chainCollect first second ⟨[], x.map .opening⟩ input =
      chainCollect first second (opened second (first.pull x input).1) (first.pull x input).2 := by
  refine ((first.chain second).collectFrom_nil (x.map .opening) input).trans ?_
  refine congrArg (fun p => chainCollect first second p.1 p.2) (?_ : _ = (_, _))
  cases ha : x.asks with
  | true =>
    rw [pull_asking first ha]
    refine ((first.chain second).pull_asking ((asks_map _ x).trans ha) input).trans ?_
    exact congrArg (·, input.tail) (goOn_opening hx _)
  | false =>
    rw [pull_resting first ha]
    refine ((first.chain second).pull_resting ((asks_map _ x).trans ha) input).trans ?_
    exact congrArg (·, input) (goOn_opening hx _)

theorem exists_goOn_eq_pull (m : Machine ω α β) (x : Next m.State) (input : Items α) :
    ∃ answer, (m.pull x input).1 = m.goOn x answer := by
  cases ha : x.asks with
  | true => exact ⟨_, congrArg Prod.fst (m.pull_asking ha input)⟩
  | false => exact ⟨_, congrArg Prod.fst (m.pull_resting ha input)⟩

section Collects

variable {turn : Turn ω β first.State} {input : Items α} {ys : List β}

include hf hg

/-- What comes of a turn of the first machine and of all that comes later, when both are ready. -/
theorem Collects.joined (h : first.Collects turn input ys) (hx : hf.running turn.next)
    {z : Next second.State} (hz : hg.Reaches z) :
    chainCollect first second (Machine.joined second turn z) input =
      second.collectFrom ⟨[], z⟩ (.listed ys) := by
  induction h generalizing z with
  | ends he => exact collectFrom_relay_of_ends hg he [] _ hz _
  | @later turn input ys _ ih =>
    by_cases he : Ends turn.events
    · exact collectFrom_relay_of_ends hg he ys _ hz input
    · rw [collectFrom_relay hg he ys hz, chainCollect_split, collectFrom_split second]
      refine congrArg (passed _) ?_
      have hz' := relay_reaches hg turn.events hz
      cases ha : (relay second turn.events z).next.asks with
      | false => exact collectFrom_joinNext_alone hg turn.next hz' ha _ _
      | true =>
        obtain ⟨answer, hanswer⟩ := first.exists_goOn_eq_pull turn.next input
        have hx' : hf.running (first.pull turn.next input).1.next := by
          rw [hanswer]
          exact (hf.running_goOn turn.next answer hx).2
        exact (chainCollect_joinNext turn.next ha input).trans (ih hx' hz')

/-- The same while the first machine is being set up and the second has not begun. -/
theorem Collects.opened (h : first.Collects turn input ys)
    (ht : turn.SetsUp hf.opening hf.running) :
    chainCollect first second (Machine.opened second turn) input =
      second.collectFrom second.start (.listed ys) := by
  have hready : ∀ {left after input ys} {turn : Turn ω β first.State},
      first.Collects turn input ys → turn.events = notes left ++ .ready :: after →
      hf.running turn.next → chainCollect first second (Machine.opened second turn) input =
        second.collectFrom second.start (.listed ys) := by
    intro left after input ys turn h he hx
    have hrest : first.Collects ⟨after, turn.next⟩ input ys := by
      rw [← collectFrom_eq_some_iff] at h ⊢
      have hturn : turn = (Turn.behind [.ready] ⟨after, turn.next⟩).behind (notes left) :=
        congrArg (Turn.mk · turn.next) he
      rwa [hturn, collectFrom_behind, collectFrom_behind, passed_notes, passed_ready] at h
    rw [opened_notes_ready second he, chainCollect_behind,
      hrest.joined hf hg hx hg.reaches_start, passed_append, passed_notes,
      collectFrom_split second second.start]
  induction h with
  | ends hends =>
    obtain ⟨left, ⟨he, -⟩ | ⟨after, he, -, hx⟩⟩ := ht
    · rw [he] at hends
      exact absurd hends (not_ends_notes left)
    · exact hready (.ends hends) he hx
  | @later turn input ys h ih =>
    obtain ⟨left, ⟨he, hx⟩ | ⟨after, he, -, hx⟩⟩ := ht
    · have hys : passing turn.events ys = ys := by
        have hpassed := passed_notes left (some ys)
        rw [passed_some, ← he] at hpassed
        exact Option.some.inj hpassed
      obtain ⟨answer, hanswer⟩ := first.exists_goOn_eq_pull turn.next input
      have hsets := hf.opening_goOn turn.next answer hx
      rw [← hanswer] at hsets
      rw [hys, ← ih hsets, opened_notes second he, chainCollect_split, passed_notes]
      exact chainCollect_opening (hf.ne_closed hx) input
    · exact hready (.later h) he hx

end Collects

end Machine

/-- A composition puts out what the second transducer makes of all that the first puts out, if there
is an end to that. -/
theorem Transducer.collect_compose {t : Transducer ω α β} {input : Items α} {ys : List β}
    (h : t.collect input = some ys) (u : Transducer ω β γ) :
    (t.compose u).collect input = u.collect (.listed ys) := by
  obtain ⟨hf⟩ := t.orderly
  obtain ⟨hg⟩ := u.orderly
  exact (Machine.collectFrom_eq_some_iff.mp h).opened hf hg hf.start

end ParseFlow.Pipeline
