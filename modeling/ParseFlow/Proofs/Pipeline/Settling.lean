import ParseFlow.Proofs.Pipeline.Ration

/-!
# Machines that have ended

How a machine goes on once it has reported the end: it does so for good, either by itself, or as
long as its input stays ended. In a chain the second machine has ended because the first one has, or
else by itself, and then it does not matter what it is still fed.
-/
namespace ParseFlow.Pipeline

variable {ω α β γ σ : Type}

/-! ## Events -/

/-- No pull is answered with an item. -/
def Silent (events : List (Event ω β)) : Prop := ∀ y, .answer (some y) ∉ events

/-- Behind an answer that the sequence has ended there is no item. -/
def Settled (events : List (Event ω β)) : Prop :=
  events.Pairwise fun e later => e = .answer none → ∀ y, later ≠ .answer (some y)

section Events

variable {events others : List (Event ω β)} {e : Event ω β}

theorem silent_nil : Silent ([] : List (Event ω β)) := nofun

theorem silent_cons : Silent (e :: events) ↔ (∀ y, e ≠ .answer (some y)) ∧ Silent events := by
  simp only [Silent, List.mem_cons, not_or, forall_and, ne_comm (a := e), ne_eq]

theorem Silent.append (h : Silent events) (ho : Silent others) : Silent (events ++ others) :=
  fun y hy => (List.mem_append.mp hy).elim (h y) (ho y)

theorem settled_cons :
    Settled (e :: events) ↔ (e = .answer none → Silent events) ∧ Settled events := by
  rw [Settled, List.pairwise_cons]
  refine and_congr_left fun _ => ⟨fun h he y hy => h _ hy he y rfl, ?_⟩
  rintro h later hlater he y rfl
  exact h he y hlater

theorem settled_append :
    Settled (events ++ others) ↔
      Settled events ∧ Settled others ∧ (Ends events → Silent others) := by
  rw [Settled, List.pairwise_append]
  refine and_congr_right fun _ => and_congr_right fun _ => ⟨fun h he y hy => ?_, ?_⟩
  · exact h _ he _ hy rfl y rfl
  · rintro h e he later hlater rfl y rfl
    exact h he y hlater

theorem Silent.settled (h : Silent events) : Settled events := by
  refine List.pairwise_iff_forall_sublist.mpr ?_
  rintro e _ hsub - y rfl
  exact h y (hsub.subset (List.mem_cons_of_mem e List.mem_cons_self))

theorem settled_of_not_ends (h : ¬ Ends events) : Settled events := by
  refine List.pairwise_iff_forall_sublist.mpr ?_
  rintro _ later hsub rfl
  exact absurd (hsub.subset List.mem_cons_self) h

end Events

namespace Turn

/-- The end is not reported and the machine asks on; or it is reported, no item comes behind it, and
the machine goes on in one of the given ways. -/
def Clears (settled : Next σ → Prop) (turn : Turn ω β σ) : Prop :=
  (¬ Ends turn.events ∧ turn.next.asks = true) ∨
    (Ends turn.events ∧ Settled turn.events ∧ settled turn.next)

section Clears

variable {settled rests : Next σ → Prop} {turn other : Turn ω β σ} {events : List (Event ω β)}

theorem Clears.of_eq (h : turn.Clears settled) (he : other = turn) : other.Clears settled := by
  rwa [he]

theorem Clears.settled_events (h : turn.Clears settled) : Settled turn.events := by
  rcases h with ⟨hne, -⟩ | ⟨-, hs, -⟩
  · exact settled_of_not_ends hne
  · exact hs

theorem Clears.imp (h : turn.Clears settled) (himp : ∀ x, settled x → rests x) :
    turn.Clears rests := by
  rcases h with h | ⟨he, hs, hx⟩
  · exact .inl h
  · exact .inr ⟨he, hs, himp _ hx⟩

theorem Clears.behind (h : turn.Clears settled) (hne : ¬ Ends events) :
    (turn.behind events).Clears settled := by
  rcases h with ⟨hne', ha⟩ | ⟨he, hs, hx⟩
  · exact .inl ⟨not_ends_append hne hne', ha⟩
  · refine .inr ⟨he.append_right, settled_append.mpr ⟨settled_of_not_ends hne, hs, ?_⟩, hx⟩
    exact fun h => absurd h hne

/-- A turn in which no item is answered with may come behind the end. -/
theorem clears_behind_of_silent (he : Ends events) (hs : Settled events)
    (hsilent : Silent turn.events) (hx : settled turn.next) :
    (turn.behind events).Clears settled :=
  .inr ⟨he.append_left, settled_append.mpr ⟨hs, hsilent.settled, fun _ => hsilent⟩, hx⟩

/-- What comes behind events that do not report the end clears as the whole turn does. -/
theorem Clears.of_behind (h : (turn.behind events).Clears settled) (hne : ¬ Ends events) :
    turn.Clears settled := by
  have hends : Ends (events ++ turn.events) ↔ Ends turn.events :=
    ⟨fun h => (List.mem_append.mp h).resolve_left hne, Ends.append_right⟩
  rcases h with ⟨hne', ha⟩ | ⟨he, hs, hx⟩
  · exact .inl ⟨mt hends.mpr hne', ha⟩
  · exact .inr ⟨hends.mp he, (settled_append.mp hs).2.1, hx⟩

end Clears

end Turn

namespace Machine

/-- How a machine goes on behind its end: `settled false` if it has ended by itself, and
`settled true` if it has since its input has ended, and stays silent as long as that stays ended.
However it goes on, it reports the end when it is told that its input has ended. -/
structure Settling (m : Machine ω α β) (h : m.Orderly) (settled : Bool → Next m.State → Prop) :
    Prop where
  start : m.start.Clears (settled false)
  goOn : ∀ x answer, h.Reaches x → x.asks = true → (m.goOn x answer).Clears (settled answer.isNone)
  ends : ∀ x, h.Reaches x → Ends (m.goOn x none).events
  silent : ∀ b x answer, settled b x → (b = true → answer = none) →
    Silent (m.goOn x answer).events ∧ settled b (m.goOn x answer).next
  closed : ∀ b, settled b .closed

/-! ## Chains -/

section Chain

variable {first : Machine ω α β} {second : Machine ω β γ} {hf : first.Orderly} {hg : second.Orderly}
  {stopped : Bool → Next first.State → Prop} {settled : Bool → Next second.State → Prop}

section Relay

variable (hs : second.Settling hg settled)

include hs

/-- A machine that has ended stays silent as long as no items are put out before it. -/
theorem Settling.relay_silent {b : Bool} (events : List (Event ω β)) {z : Next second.State}
    (hz : settled b z) (he : b = true → Silent events) :
    Silent (relay second events z).events ∧ settled b (relay second events z).next := by
  induction events generalizing z with
  | nil => exact ⟨silent_nil, hz⟩
  | cons e events ih =>
    have hrest : b = true → Silent events := fun hb => (silent_cons.mp (he hb)).2
    cases z with
    | idle t => rw [relay_idle]; exact ⟨silent_nil, hz⟩
    | closed => rw [relay_closed]; exact ⟨silent_nil, hz⟩
    | ask t =>
      cases e with
      | note w =>
        obtain ⟨hsilent, hnext⟩ := ih hz hrest
        exact ⟨silent_cons.mpr ⟨nofun, hsilent⟩, hnext⟩
      | ready => exact ih hz hrest
      | answer out =>
        have hout : b = true → out = none := by
          intro hb
          cases out with
          | none => rfl
          | some y => exact absurd rfl ((silent_cons.mp (he hb)).1 y)
        obtain ⟨hfeed, hfed⟩ := hs.silent b (.ask t) out hz hout
        obtain ⟨hsilent, hnext⟩ := ih hfed hrest
        rw [relay_answer]
        exact ⟨hfeed.append hsilent, hnext⟩

/-- If it has ended by itself it stays silent whatever it is fed. -/
theorem Settling.relay_silent_alone (events : List (Event ω β)) {z : Next second.State}
    (hz : settled false z) : Silent (relay second events z).events ∧
      settled false (relay second events z).next :=
  hs.relay_silent events hz fun h => absurd h Bool.false_ne_true

/-- While events pass through a machine that asks, it asks on, or it ends: by itself, or because the
end was among them. -/
theorem Settling.relay_clears {events : List (Event ω β)} {z : Next second.State}
    (hz : hg.Reaches z) (ha : z.asks = true) (he : Settled events) :
    (relay second events z).Clears fun z => settled false z ∨ (Ends events ∧ settled true z) := by
  induction events generalizing z with
  | nil => exact .inl ⟨List.not_mem_nil, ha⟩
  | cons e events ih =>
    obtain ⟨hend, hrest⟩ := settled_cons.mp he
    have hlater : ∀ z, (settled false z ∨ (Ends events ∧ settled true z)) →
        settled false z ∨ (Ends (e :: events) ∧ settled true z) :=
      fun z h => h.imp_right fun h => ⟨List.mem_cons_of_mem e h.1, h.2⟩
    cases z with
    | idle t => cases ha
    | closed => cases ha
    | ask t =>
      cases e with
      | note w =>
        have hw : ¬ Ends ([.note w] : List (Event ω γ)) := not_ends_notes [w]
        exact Turn.Clears.behind ((ih hz ha hrest).imp hlater) hw
      | ready => exact (ih hz ha hrest).imp hlater
      | answer out =>
        have hreaches := hz.goOn hg out
        rw [relay_answer]
        rcases hs.goOn (.ask t) out hz ha with ⟨hne, hasks⟩ | ⟨hends, hsettled, hnext⟩
        · exact ((ih hreaches hasks hrest).imp hlater).behind hne
        · cases out with
          | some y =>
            obtain ⟨hsilent, hz'⟩ := hs.relay_silent_alone events hnext
            exact Turn.clears_behind_of_silent hends hsettled hsilent (.inl hz')
          | none =>
            obtain ⟨hsilent, hz'⟩ := hs.relay_silent events hnext fun _ => hend rfl
            exact Turn.clears_behind_of_silent hends hsettled hsilent
              (.inr ⟨List.mem_cons_self, hz'⟩)

theorem Settling.relay_ends {events : List (Event ω β)} {z : Next second.State}
    (hz : hg.Reaches z) (ha : z.asks = true) (he : Ends events) :
    Ends (relay second events z).events := by
  induction events generalizing z with
  | nil => cases he
  | cons e events ih =>
    cases z with
    | idle t => cases ha
    | closed => cases ha
    | ask t =>
      cases e with
      | note w => exact ends_note.mpr (ih hz ha (ends_note.mp he))
      | ready => exact ih hz ha (ends_ready.mp he)
      | answer out =>
        rw [relay_answer]
        rcases hs.goOn (.ask t) out hz ha with ⟨hne, hasks⟩ | ⟨hends, -⟩
        · cases out with
          | none => exact absurd (hs.ends (.ask t) hz) hne
          | some y => exact (ih (hz.goOn hg (some y)) hasks (ends_some.mp he)).append_right
        · exact hends.append_left

end Relay

/-- How a chain goes on behind its end: the second machine has ended by itself, or since the first
one has. -/
def chainSettled (stopped : Bool → Next first.State → Prop)
    (settled : Bool → Next second.State → Prop) (b : Bool)
    (n : Next (ChainState first.State second.State)) : Prop :=
  ∃ x z, n = joinNext x z ∧ (settled false z ∨ (stopped b x ∧ settled true z))

section Turns

variable (hs : second.Settling hg settled) {turn : Turn ω β first.State} {b : Bool}
  {z : Next second.State}

include hs

theorem Settling.joined_clears (ht : turn.Clears (stopped b)) (hz : hg.Reaches z)
    (ha : z.asks = true) : (joined second turn z).Clears (chainSettled stopped settled b) := by
  rcases hs.relay_clears hz ha ht.settled_events with ⟨hne, hasks⟩ | ⟨hends, hsettled, hnext⟩
  · rcases ht with ⟨-, hx⟩ | ⟨he, -⟩
    · refine .inl ⟨hne, (asks_joinNext _ _).trans ?_⟩
      rw [hx, hasks]
      rfl
    · exact absurd (hs.relay_ends hz ha he) hne
  · refine .inr ⟨hends, hsettled, _, _, rfl, hnext.imp_right ?_⟩
    rintro ⟨he, hz'⟩
    rcases ht with ⟨hne, -⟩ | ⟨-, -, hx⟩
    · exact absurd he hne
    · exact ⟨hx, hz'⟩

theorem Settling.opened_clears (hsets : turn.SetsUp hf.opening hf.running)
    (ht : turn.Clears (stopped b)) :
    (opened second turn).Clears (chainSettled stopped settled b) := by
  obtain ⟨left, ⟨he, -⟩ | ⟨after, he, -⟩⟩ := hsets
  · have hne : ¬ Ends turn.events := by
      rw [he]
      exact not_ends_notes left
    have hx : turn.next.asks = true := (ht.resolve_right fun h => hne h.1).2
    rw [opened_notes second he]
    exact .inl ⟨not_ends_notes left, (asks_map _ _).trans hx⟩
  · have hnotes : ¬ Ends (notes left ++ [.ready] : List (Event ω β)) :=
      not_ends_append (not_ends_notes left) (by simp [Ends])
    have hafter : (⟨after, turn.next⟩ : Turn ω β first.State).Clears (stopped b) := by
      refine Turn.Clears.of_behind (ht.of_eq ?_) hnotes
      rw [Turn.behind, List.append_assoc]
      exact congrArg (Turn.mk · turn.next) he.symm
    rw [opened_notes_ready second he]
    rcases hs.start with ⟨hne, hasks⟩ | ⟨hends, hsettled, hnext⟩
    · exact (hs.joined_clears hafter hg.reaches_start hasks).behind
        (not_ends_append (not_ends_notes left) hne)
    · obtain ⟨hsilent, hz⟩ := hs.relay_silent_alone after hnext
      have hall : Settled (notes left ++ second.start.events) :=
        settled_append.mpr ⟨settled_of_not_ends (not_ends_notes left), hsettled,
          fun h => absurd h (not_ends_notes left)⟩
      exact Turn.clears_behind_of_silent hends.append_right hall hsilent ⟨_, _, rfl, .inl hz⟩

theorem Settling.opened_ends (hsets : turn.SetsUp hf.opening hf.running) (ht : Ends turn.events) :
    Ends (opened second turn).events := by
  obtain ⟨left, ⟨he, -⟩ | ⟨after, he, -⟩⟩ := hsets
  · rw [he] at ht
    exact absurd ht (not_ends_notes left)
  · have hafter : Ends after := by
      rw [he] at ht
      exact ends_ready.mp ((List.mem_append.mp ht).resolve_left (not_ends_notes left))
    rw [opened_notes_ready second he]
    rcases hs.start with ⟨-, hasks⟩ | ⟨hends, -⟩
    · exact (hs.relay_ends hg.reaches_start hasks hafter).append_right
    · exact hends.append_right.append_left

end Turns

variable (hr : first.Settling hf stopped) (hs : second.Settling hg settled)

/-- A chain that has been set in motion still sets up its first machine, or runs both. -/
theorem Orderly.reaches_chain {n : Next (ChainState first.State second.State)}
    (hn : (Orderly.chain hf hg).Reaches n) :
    (∃ x, hf.opening x ∧ n = x.map .opening) ∨
      ∃ x z, hf.running x ∧ hg.Reaches z ∧ n = joinNext x z := by
  rcases hn with (h | ⟨x, z, hx, hz, rfl⟩) | ⟨x, z, hx, hz, rfl⟩
  · exact .inl h
  · exact .inr ⟨x, z, hx, .inl hz, rfl⟩
  · exact .inr ⟨x, z, hx, .inr hz, rfl⟩

include hr hs

theorem Settling.goOn_chain_silent {b : Bool} {n : Next (ChainState first.State second.State)}
    (hn : chainSettled stopped settled b n) {answer : Option α} (hb : b = true → answer = none) :
    Silent ((first.chain second).goOn n answer).events ∧
      chainSettled stopped settled b ((first.chain second).goOn n answer).next := by
  obtain ⟨x, z, rfl, hz⟩ := hn
  cases ha : z.asks with
  | true =>
    rw [goOn_joinNext x ha answer]
    rcases hz with hz | ⟨hx, hz⟩
    · obtain ⟨hsilent, hz'⟩ := hs.relay_silent_alone (first.goOn x answer).events hz
      exact ⟨hsilent, _, _, rfl, .inl hz'⟩
    · obtain ⟨hfirst, hx'⟩ := hr.silent b x answer hx hb
      obtain ⟨hsilent, hz'⟩ := hs.relay_silent _ hz fun _ => hfirst
      exact ⟨hsilent, _, _, rfl, .inr ⟨hx', hz'⟩⟩
  | false =>
    rw [goOn_joinNext_alone x ha answer]
    rcases hz with hz | ⟨-, hz⟩
    · obtain ⟨hsilent, hz'⟩ := hs.silent false z none hz fun _ => rfl
      exact ⟨hsilent, _, _, rfl, .inl hz'⟩
    · obtain ⟨hsilent, hz'⟩ := hs.silent true z none hz fun _ => rfl
      exact ⟨hsilent, _, _, rfl, .inr ⟨hr.closed b, hz'⟩⟩

theorem Settling.chain :
    (first.chain second).Settling (Orderly.chain hf hg) (chainSettled stopped settled) where
  start := hs.opened_clears hf.start hr.start
  goOn := by
    intro n answer hn ha
    rcases Orderly.reaches_chain hn with ⟨x, hx, rfl⟩ | ⟨x, z, hx, hz, rfl⟩
    · have hopened := hs.opened_clears (hf.opening_goOn x answer hx)
        (hr.goOn x answer (.inl hx) ((asks_map _ x).symm.trans ha))
      exact hopened.of_eq (goOn_opening (hf.ne_closed hx) answer)
    · obtain ⟨hxa, hza⟩ := Bool.and_eq_true_iff.mp ((asks_joinNext x z).symm.trans ha)
      rw [goOn_joinNext x hza answer]
      exact hs.joined_clears (hr.goOn x answer (.inr hx) hxa) hz hza
  ends := by
    intro n hn
    rcases Orderly.reaches_chain hn with ⟨x, hx, rfl⟩ | ⟨x, z, hx, hz, rfl⟩
    · have hopened := hs.opened_ends (hf.opening_goOn x none hx) (hr.ends x (.inl hx))
      have hgo : (first.chain second).goOn (x.map .opening) none =
          opened second (first.goOn x none) := goOn_opening (hf.ne_closed hx) none
      exact (congrArg (fun turn => Ends turn.events) hgo).mpr hopened
    · cases hza : z.asks with
      | true =>
        rw [goOn_joinNext x hza none]
        exact hs.relay_ends hz hza (hr.ends x (.inr hx))
      | false =>
        rw [goOn_joinNext_alone x hza none]
        exact hs.ends z hz
  silent b n answer hn hb := Settling.goOn_chain_silent hr hs hn hb
  closed b := ⟨.closed, .closed, rfl, .inr ⟨hr.closed b, hs.closed true⟩⟩

end Chain

end Machine
end ParseFlow.Pipeline
