import ParseFlow.Proofs.Pipeline.Grouping

/-!
# Expansions cut short

Whatever is seen of a pipeline in so many steps is seen of it when its expansions that never end are
cut short behind as many items. The machine of the one goes along with that of the other until an
endless expansion is met; from then on it drifts: it does not ask, and what it shows in one pull
after the other is the beginning of what the other shows at once.
-/
namespace ParseFlow.Pipeline

variable {ω α β γ σ τ : Type}

/-- What comes behind notes sets up as the whole turn does. -/
theorem Turn.SetsUp.of_behind_notes {opening running : Next σ → Prop} {left : List ω}
    {turn : Turn ω β σ} (h : (turn.behind (notes left)).SetsUp opening running) :
    turn.SetsUp opening running := by
  induction left with
  | nil => exact h
  | cons w left ih =>
    refine ih ?_
    obtain ⟨_ | ⟨_, more⟩, ⟨he, hx⟩ | ⟨after, he, hp⟩⟩ := h
    · cases he
    · cases he
    · exact ⟨more, .inl ⟨(List.cons.inj he).2, hx⟩⟩
    · exact ⟨more, .inr ⟨after, (List.cons.inj he).2, hp⟩⟩

/-! ## Drifting -/

namespace Machine

/-- For so many pulls the machine does not ask, and shows what stands at the beginning of the other
turn; it may come to the end of that turn and then go on along with it. -/
inductive Drifts (m : Machine ω α β) (along : Next m.State → Next τ → Prop) :
    Nat → Turn ω β m.State → Turn ω β τ → Prop
  | spent {turn : Turn ω β m.State} {other : Turn ω β τ} (ha : turn.next.asks = false)
      (rest : Turn ω β τ) (ho : other = rest.behind turn.events) : Drifts m along 0 turn other
  | meets {pulls : Nat} {turn : Turn ω β m.State} {other : Turn ω β τ}
      (ha : turn.next.asks = false) (h : turn.InStep along other) : Drifts m along pulls turn other
  | later {pulls : Nat} {turn : Turn ω β m.State} {other : Turn ω β τ}
      (ha : turn.next.asks = false) (rest : Turn ω β τ) (ho : other = rest.behind turn.events)
      (h : Drifts m along pulls (m.goOn turn.next none) rest) :
    Drifts m along (pulls + 1) turn other

/-- The turn goes in step with the other, or drifts along it for so many pulls. -/
def Leads (m : Machine ω α β) (along : Next m.State → Next τ → Prop) (pulls : Nat)
    (turn : Turn ω β m.State) (other : Turn ω β τ) : Prop :=
  turn.InStep along other ∨ m.Drifts along pulls turn other

section Drifts

variable {m : Machine ω α β} {along : Next m.State → Next τ → Prop} {pulls : Nat}
  {turn : Turn ω β m.State} {other : Turn ω β τ}

theorem Drifts.rests (h : m.Drifts along pulls turn other) : turn.next.asks = false := by
  cases h with
  | spent ha _ _ => exact ha
  | meets ha _ => exact ha
  | later ha _ _ _ => exact ha

theorem Drifts.of_eq (h : m.Drifts along pulls turn other) {turn' : Turn ω β m.State}
    (he : turn' = turn) : m.Drifts along pulls turn' other := by
  rwa [he]

theorem Drifts.exists_eq_behind (h : m.Drifts along pulls turn other) :
    ∃ rest : Turn ω β τ, other = rest.behind turn.events := by
  cases h with
  | spent _ rest ho => exact ⟨rest, ho⟩
  | meets _ hin => exact ⟨⟨[], other.next⟩, by rw [Turn.behind_nil, hin.1]⟩
  | later _ rest ho _ => exact ⟨rest, ho⟩

theorem Drifts.mono (h : m.Drifts along pulls turn other) {fewer : Nat} (hle : fewer ≤ pulls) :
    m.Drifts along fewer turn other := by
  induction h generalizing fewer with
  | spent ha rest ho =>
    obtain rfl := Nat.le_zero.mp hle
    exact .spent ha rest ho
  | meets ha hin => exact .meets ha hin
  | later ha rest ho _ ih =>
    cases fewer with
    | zero => exact .spent ha _ ho
    | succ fewer => exact .later ha rest ho (ih (Nat.le_of_succ_le_succ hle))

theorem Drifts.behind (h : m.Drifts along pulls turn other) (events : List (Event ω β)) :
    m.Drifts along pulls (turn.behind events) (other.behind events) := by
  cases h with
  | spent ha rest ho =>
    subst ho
    exact .spent ha rest (Turn.behind_append _ _ _).symm
  | meets ha hin => exact .meets ha (hin.behind rfl)
  | later ha rest ho hrest =>
    subst ho
    exact .later ha _ (Turn.behind_append _ _ _).symm hrest

/-- What drifts along a turn drifts along it also if more is shown, unless the turn rests. -/
theorem Drifts.extend (h : m.Drifts along pulls turn other)
    (hasks : ∀ x y, along x y → x.asks = y.asks) {more : Turn ω β τ}
    (hmore : other.next.asks = false → more = ⟨[], other.next⟩) :
    m.Drifts along pulls turn (more.behind other.events) := by
  induction h with
  | spent ha rest ho =>
    subst ho
    exact .spent ha _ (Turn.behind_append _ _ _)
  | meets ha hin =>
    rw [hmore ((hasks _ _ hin.2).symm.trans ha), Turn.behind_nil]
    exact .meets ha hin
  | later ha rest ho _ ih =>
    subst ho
    exact .later ha _ (Turn.behind_append _ _ _) (ih hmore)

theorem Leads.mono (h : m.Leads along pulls turn other) {fewer : Nat} (hle : fewer ≤ pulls) :
    m.Leads along fewer turn other := h.imp_right fun h => h.mono hle

theorem Leads.behind (h : m.Leads along pulls turn other) (events : List (Event ω β)) :
    m.Leads along pulls (turn.behind events) (other.behind events) :=
  h.imp (fun h => h.behind rfl) fun h => h.behind events

theorem Leads.of_eq (h : m.Leads along pulls turn other) {turn' : Turn ω β m.State}
    {other' : Turn ω β τ} (ht : turn' = turn) (ho : other' = other) :
    m.Leads along pulls turn' other' := by
  rwa [ht, ho]

theorem Leads.drifts (h : m.Leads along pulls turn other) (ha : turn.next.asks = false) :
    m.Drifts along pulls turn other := h.elim (.meets ha) id

theorem Leads.inStep (h : m.Leads along pulls turn other) (ha : turn.next.asks = true) :
    turn.InStep along other :=
  h.resolve_right fun h => Bool.false_ne_true (h.rests.symm.trans ha)

theorem Leads.exists_eq_behind (h : m.Leads along pulls turn other) :
    ∃ rest : Turn ω β τ, other = rest.behind turn.events := by
  rcases h with h | h
  · exact ⟨⟨[], other.next⟩, by rw [Turn.behind_nil, h.1]⟩
  · exact h.exists_eq_behind

theorem Leads.of_behind {events : List (Event ω β)}
    (h : m.Leads along pulls (turn.behind events) (other.behind events)) :
    m.Leads along pulls turn other := by
  have hcancel : ∀ {rest : Turn ω β τ},
      other.behind events = rest.behind (turn.behind events).events →
      other = rest.behind turn.events := by
    intro rest he
    have hevents : events ++ other.events = events ++ turn.events ++ rest.events :=
      congrArg Turn.events he
    rw [List.append_assoc] at hevents
    have hnext : (other.behind events).next = _ := congrArg Turn.next he
    exact congrArg₂ Turn.mk (List.append_cancel_left hevents) hnext
  rcases h with ⟨he, hn⟩ | h
  · exact .inl ⟨List.append_cancel_left he, hn⟩
  · cases h with
    | spent ha rest ho => exact .inr (.spent ha rest (hcancel ho))
    | meets ha hin => exact .inr (.meets ha ⟨List.append_cancel_left hin.1, hin.2⟩)
    | later ha rest ho hrest => exact .inr (.later ha rest (hcancel ho) hrest)

end Drifts

/-- The first machine goes along with the second, or drifts along its turns for so many pulls. -/
structure Cuts (m n : Machine ω α β) (pulls : Nat) (along : Next m.State → Next n.State → Prop) :
    Prop where
  start : m.Leads along pulls m.start n.start
  asks_eq : ∀ x y, along x y → x.asks = y.asks
  goOn : ∀ x y answer, along x y → m.Leads along pulls (m.goOn x answer) (n.goOn y answer)
  closed : along .closed .closed

theorem Cuts.refl (m : Machine ω α β) (pulls : Nat) : m.Cuts m pulls Eq where
  start := .inl ⟨rfl, rfl⟩
  asks_eq := fun _ _ h => congrArg Next.asks h
  goOn := fun _ _ _ h => .inl (h ▸ ⟨rfl, rfl⟩)
  closed := rfl

section Session

variable {m n : Machine ω α β} {pulls : Nat} {along : Next m.State → Next n.State → Prop}

/-- What the first machine shows in no more steps is the beginning of what the second does. -/
theorem Cuts.session_isPrefix (h : m.Cuts n pulls along) (input : Nat → Option α) {steps : Nat}
    (hs : steps ≤ pulls) {turn : Turn ω β m.State} {other : Turn ω β n.State}
    (ht : m.Leads along steps turn other) (asked : Nat) :
    ∃ more, m.session input steps asked turn <+: n.session input more asked other := by
  induction steps generalizing asked turn other with
  | zero => exact ⟨0, List.nil_prefix⟩
  | succ steps ih =>
    have hle : steps ≤ pulls := Nat.le_of_succ_le hs
    obtain ⟨events, x⟩ := turn
    cases events with
    | cons e events =>
      obtain ⟨rest, rfl⟩ := ht.exists_eq_behind
      have htail : m.Leads along (steps + 1) ⟨events, x⟩ (rest.behind events) :=
        Leads.of_behind (show m.Leads along (steps + 1)
          ((⟨events, x⟩ : Turn ω β m.State).behind [e]) ((rest.behind events).behind [e]) from ht)
      obtain ⟨more, hmore⟩ := ih hle (htail.mono (Nat.le_succ steps)) asked
      exact ⟨more + 1, List.cons_prefix_cons.mpr ⟨rfl, hmore⟩⟩
    | nil =>
      have hinStep : ∀ {other : Turn ω β n.State},
          (⟨[], x⟩ : Turn ω β m.State).InStep along other →
          ∃ more, m.session input (steps + 1) asked ⟨[], x⟩ <+:
            n.session input more asked other := by
        rintro ⟨_, y⟩ ⟨⟨⟩, hxy⟩
        cases ha : x.asks with
        | true =>
          have hy : y.asks = true := (h.asks_eq x y hxy).symm.trans ha
          obtain ⟨more, hmore⟩ := ih hle ((h.goOn x y (input asked) hxy).mono hle) (asked + 1)
          refine ⟨more + 1, ?_⟩
          rw [session_asking m ha, session_asking n hy]
          exact List.prefix_append_right_inj _ |>.mpr hmore
        | false =>
          have hy : y.asks = false := (h.asks_eq x y hxy).symm.trans ha
          obtain ⟨more, hmore⟩ := ih hle ((h.goOn x y none hxy).mono hle) asked
          refine ⟨more + 1, ?_⟩
          rwa [session_resting m ha, session_resting n hy]
      rcases ht with hin | hdrifts
      · exact hinStep hin
      · cases hdrifts with
        | meets _ hin => exact hinStep hin
        | later ha rest ho hrest =>
          subst ho
          rw [session_resting m ha]
          exact ih hle (.inr hrest) asked

end Session

/-! ## Chains -/

section Chain

variable {first other : Machine ω α β} {second last : Machine ω β γ} {pulls : Nat}
  {along : Next first.State → Next other.State → Prop}
  {onward : Next second.State → Next last.State → Prop}

/-- What is shown along a turn is shown along it when events have passed through both machines. -/
theorem Cuts.relay (h : second.Cuts last pulls onward) (events : List (Event ω β))
    {turn : Turn ω γ second.State} {turn' : Turn ω γ last.State}
    (ht : second.Leads onward pulls turn turn') :
    second.Leads onward pulls ((Machine.relay second events turn.next).behind turn.events)
      ((Machine.relay last events turn'.next).behind turn'.events) := by
  induction events generalizing turn turn' with
  | nil => rwa [Machine.relay, Machine.relay, Turn.behind_nil, Turn.behind_nil]
  | cons e events ih =>
    cases ha : turn.next.asks with
    | false =>
      rw [relay_resting second _ ha, Turn.behind_nil]
      exact .inr ((ht.drifts ha).extend h.asks_eq (relay_resting last _))
    | true =>
      obtain ⟨he, hn⟩ := ht.inStep ha
      obtain ⟨left, x⟩ := turn
      obtain ⟨_, y⟩ := turn'
      obtain rfl := he
      have hy : y.asks = true := (h.asks_eq x y hn).symm.trans ha
      cases x with
      | idle t => cases ha
      | closed => cases ha
      | ask t =>
        cases y with
        | idle t' => cases hy
        | closed => cases hy
        | ask t' =>
          cases e with
          | note w =>
            have hstep : second.Leads onward pulls ⟨left ++ [.note w], .ask t⟩
                (⟨left ++ [.note w], .ask t'⟩ : Turn ω γ last.State) := .inl ⟨rfl, hn⟩
            have hrest := ih hstep
            rw [Turn.behind_append, Turn.behind_append] at hrest
            exact hrest
          | ready => exact ih (.inl ⟨rfl, hn⟩)
          | answer out =>
            have hrest := ih ((h.goOn (.ask t) (.ask t') out hn).behind left)
            refine (?_ : second.Leads onward pulls
              ((Machine.relay second (.answer out :: events) (.ask t)).behind left)
              ((Machine.relay last (.answer out :: events) (.ask t')).behind left))
            rw [relay_answer, relay_answer, ← Turn.behind_append, ← Turn.behind_append]
            exact hrest

variable {hf : first.Orderly} {hf' : other.Orderly}

/-- While the second machine drifts alone, so does the chain. -/
theorem Drifts.alone {turn : Turn ω γ second.State} {turn' : Turn ω γ last.State}
    (h : second.Drifts onward pulls turn turn') (hasks : ∀ x y, onward x y → x.asks = y.asks)
    (hclosed : along .closed .closed) (x : Next first.State) (x' : Next other.State) :
    (first.chain second).Drifts (hf.chainAlong hf' along onward) pulls
      ⟨turn.events, joinNext x turn.next⟩
      (⟨turn'.events, joinNext x' turn'.next⟩ : Turn ω γ (ChainState other.State last.State)) := by
  have hrests : ∀ {x : Next first.State} {z : Next second.State}, z.asks = false →
      (joinNext x z).asks = false := by
    intro x z hz
    rw [asks_joinNext, hz, Bool.and_false]
  induction h generalizing x x' with
  | spent ha rest ho =>
    subst ho
    exact .spent (hrests ha) ⟨rest.events, joinNext x' rest.next⟩ rfl
  | @meets pulls turn turn' ha hin =>
    have ha' : turn'.next.asks = false := (hasks _ _ hin.2).symm.trans ha
    refine .meets (hrests ha) ⟨hin.1, .inr ⟨.closed, .closed, _, _, hclosed, hin.2, ?_, ?_⟩⟩
    · exact joinNext_of_resting x .closed ha
    · exact joinNext_of_resting x' .closed ha'
  | later ha rest ho _ ih =>
    subst ho
    refine .later (hrests ha) ⟨rest.events, joinNext x' rest.next⟩ rfl ?_
    exact (ih .closed x').of_eq (goOn_joinNext_alone x ha none)

theorem joined_rests {turn : Turn ω β first.State} (ha : turn.next.asks = false)
    {z : Next second.State} : (Machine.joined second turn z).next.asks = false := by
  refine (asks_joinNext _ _).trans ?_
  rw [ha, Bool.false_and]

section Turns

variable (h : second.Cuts last pulls onward) (hclosed : along .closed .closed)
  {turn : Turn ω β first.State} {turn' : Turn ω β other.State}

include h hclosed

/-- If the second machine rests when the events have passed through it, it drifts alone. -/
theorem Leads.joined_of_resting {fewer : Nat} (hle : fewer ≤ pulls)
    (ht : first.Leads along fewer turn turn') {told : Turn ω γ second.State}
    {told' : Turn ω γ last.State} (hr : second.Leads onward pulls told told')
    (ha : (Machine.relay second turn.events told.next).next.asks = false) :
    (first.chain second).Leads (hf.chainAlong hf' along onward) fewer
      ((Machine.joined second turn told.next).behind told.events)
      ((Machine.joined last turn' told'.next).behind told'.events) := by
  obtain ⟨rest, rfl⟩ := ht.exists_eq_behind
  have hrelay := (h.relay turn.events hr).drifts ha
  have hall := hrelay.extend h.asks_eq
    (relay_resting last rest.events (z := (Machine.relay last turn.events told'.next).next))
  rw [joined_behind, ← Turn.behind_append]
  exact .inr ((hall.mono hle).alone h.asks_eq hclosed turn.next rest.next)

theorem Leads.joined_of_inStep {fewer : Nat} (hle : fewer ≤ pulls)
    (ht : turn.InStep along turn') {told : Turn ω γ second.State}
    {told' : Turn ω γ last.State} (hr : second.Leads onward pulls told told') :
    (first.chain second).Leads (hf.chainAlong hf' along onward) fewer
      ((Machine.joined second turn told.next).behind told.events)
      ((Machine.joined last turn' told'.next).behind told'.events) := by
  cases ha : (Machine.relay second turn.events told.next).next.asks with
  | false => exact joined_of_resting h hclosed hle (.inl ht) hr ha
  | true =>
    obtain ⟨he, hn⟩ := (h.relay turn.events hr).inStep ha
    obtain ⟨events, x⟩ := turn
    obtain ⟨_, x'⟩ := turn'
    obtain ⟨⟨⟩, hx⟩ := ht
    exact .inl ⟨he, .inr ⟨x, x', _, _, hx, hn, rfl, rfl⟩⟩

theorem Drifts.joined {fewer : Nat} (hle : fewer ≤ pulls)
    (ht : first.Drifts along fewer turn turn') {told : Turn ω γ second.State}
    {told' : Turn ω γ last.State} (hr : second.Leads onward pulls told told') :
    (first.chain second).Leads (hf.chainAlong hf' along onward) fewer
      ((Machine.joined second turn told.next).behind told.events)
      ((Machine.joined last turn' told'.next).behind told'.events) := by
  induction ht generalizing told told' with
  | meets _ hin => exact Leads.joined_of_inStep h hclosed hle hin hr
  | @spent turn turn' hrests rest ho =>
    cases ha : (Machine.relay second turn.events told.next).next.asks with
    | false => exact Leads.joined_of_resting h hclosed hle (.inr (.spent hrests rest ho)) hr ha
    | true =>
      obtain ⟨he, -⟩ := (h.relay turn.events hr).inStep ha
      subst ho
      refine .inr (.spent (joined_rests hrests) (Machine.joined last rest
        (Machine.relay last turn.events told'.next).next) ?_)
      rw [joined_behind, ← Turn.behind_append]
      exact congrArg (Turn.behind · _) he.symm
  | @later fewer turn turn' hrests rest ho hlater ih =>
    cases ha : (Machine.relay second turn.events told.next).next.asks with
    | false =>
      exact Leads.joined_of_resting h hclosed hle (.inr (.later hrests rest ho hlater)) hr ha
    | true =>
      obtain ⟨he, hn⟩ := (h.relay turn.events hr).inStep ha
      subst ho
      -- The first machine goes on by itself, and the second is fed what it shows.
      have hstep : second.Leads onward pulls
          ⟨[], (Machine.relay second turn.events told.next).next⟩
          (⟨[], (Machine.relay last turn.events told'.next).next⟩ : Turn ω γ last.State) :=
        .inl ⟨rfl, hn⟩
      have hrest := (ih (Nat.le_of_succ_le hle) hstep).drifts (joined_rests hlater.rests)
      refine .inr (.later (joined_rests hrests) (Machine.joined last rest
        (Machine.relay last turn.events told'.next).next) ?_ ?_)
      · rw [joined_behind, ← Turn.behind_append]
        exact congrArg (Turn.behind · _) he.symm
      · exact hrest.of_eq (goOn_joinNext turn.next ha none)

/-- What the first machine shows along a turn the chain shows along that of the other chain. -/
theorem Leads.joined {fewer : Nat} (hle : fewer ≤ pulls)
    (ht : first.Leads along fewer turn turn') {told : Turn ω γ second.State}
    {told' : Turn ω γ last.State} (hr : second.Leads onward pulls told told') :
    (first.chain second).Leads (hf.chainAlong hf' along onward) fewer
      ((Machine.joined second turn told.next).behind told.events)
      ((Machine.joined last turn' told'.next).behind told'.events) :=
  ht.elim (fun ht => Leads.joined_of_inStep h hclosed hle ht hr)
    fun ht => Drifts.joined h hclosed hle ht hr

theorem Leads.opened_of_ready {fewer : Nat} (hle : fewer ≤ pulls)
    (ht : first.Leads along fewer turn turn') {left : List ω} {after : List (Event ω β)}
    (he : turn.events = notes left ++ .ready :: after) :
    (first.chain second).Leads (hf.chainAlong hf' along onward) fewer
      (Machine.opened second turn) (Machine.opened last turn') := by
  obtain ⟨rest, rfl⟩ := ht.exists_eq_behind
  obtain ⟨_, x⟩ := turn
  obtain rfl := he
  have hright : (rest.behind (notes left ++ .ready :: after)).events =
      notes left ++ .ready :: (after ++ rest.events) := List.append_assoc _ _ _
  rw [opened_notes_ready second rfl, opened_notes_ready last hright]
  have hafter : first.Leads along fewer ⟨after, x⟩ (rest.behind after) := by
    rw [List.append_cons, Turn.behind_append] at ht
    exact Leads.of_behind ht
  rw [Turn.behind_append, Turn.behind_append]
  exact (Leads.joined h hclosed hle hafter h.start).behind (notes left)

theorem Leads.opened_of_inStep {fewer : Nat} (hle : fewer ≤ pulls) (ht : turn.InStep along turn')
    (hs : turn.SetsUp hf.opening hf.running) (hs' : turn'.SetsUp hf'.opening hf'.running) :
    (first.chain second).Leads (hf.chainAlong hf' along onward) fewer
      (Machine.opened second turn) (Machine.opened last turn') := by
  rcases hs.both hs' ht.1 with ⟨left, he, hx, hx'⟩ | ⟨left, after, he⟩
  · rw [opened_notes second he, opened_notes last (ht.1.symm.trans he)]
    exact .inl ⟨rfl, .inl ⟨_, _, ht.2, hx, hx', rfl, rfl⟩⟩
  · exact Leads.opened_of_ready h hclosed hle (.inl ht) he

/-- The same while the first machines are being set up. -/
theorem Drifts.opened {fewer : Nat} (hle : fewer ≤ pulls)
    (ht : first.Drifts along fewer turn turn') (hs : turn.SetsUp hf.opening hf.running)
    (hs' : turn'.SetsUp hf'.opening hf'.running) :
    (first.chain second).Leads (hf.chainAlong hf' along onward) fewer
      (Machine.opened second turn) (Machine.opened last turn') := by
  induction ht with
  | meets _ hin => exact Leads.opened_of_inStep h hclosed hle hin hs hs'
  | @spent turn turn' hrests rest ho =>
    rcases hs with ⟨left, ⟨he, hx⟩ | ⟨after, he, -⟩⟩
    · subst ho
      rw [opened_notes second he, he, opened_behind_notes]
      exact .inr (.spent ((asks_map _ _).trans hrests) _ rfl)
    · exact Leads.opened_of_ready h hclosed hle (.inr (.spent hrests rest ho)) he
  | @later fewer turn turn' hrests rest ho hlater ih =>
    rcases hs with ⟨left, ⟨he, hx⟩ | ⟨after, he, -⟩⟩
    · subst ho
      rw [he] at hs'
      have hsets := hf.opening_goOn turn.next none hx
      have hrest := (ih (Nat.le_of_succ_le hle) hsets hs'.of_behind_notes).drifts
        (opened_rests hsets hlater.rests)
      rw [opened_notes second he, he, opened_behind_notes]
      refine .inr (.later ((asks_map _ _).trans hrests) _ rfl ?_)
      exact hrest.of_eq (goOn_opening (hf.ne_closed hx) none)
    · exact Leads.opened_of_ready h hclosed hle (.inr (.later hrests rest ho hlater)) he

theorem Leads.opened {fewer : Nat} (hle : fewer ≤ pulls) (ht : first.Leads along fewer turn turn')
    (hs : turn.SetsUp hf.opening hf.running) (hs' : turn'.SetsUp hf'.opening hf'.running) :
    (first.chain second).Leads (hf.chainAlong hf' along onward) fewer
      (Machine.opened second turn) (Machine.opened last turn') :=
  ht.elim (fun ht => Leads.opened_of_inStep h hclosed hle ht hs hs')
    fun ht => Drifts.opened h hclosed hle ht hs hs'

end Turns

theorem Cuts.chain (hf : first.Orderly) (hf' : other.Orderly) (h : first.Cuts other pulls along)
    (h' : second.Cuts last pulls onward) :
    (first.chain second).Cuts (other.chain last) pulls (hf.chainAlong hf' along onward) where
  start := Leads.opened h' h.closed (Nat.le_refl pulls) h.start hf.start hf'.start
  asks_eq := fun _ _ hn => hn.asks_eq h.asks_eq h'.asks_eq
  goOn := by
    rintro _ _ answer (⟨x, x', hx, hopen, hopen', rfl, rfl⟩ | ⟨x, x', z, z', hx, hz, rfl, rfl⟩)
    · refine (Leads.opened h' h.closed (Nat.le_refl pulls) (h.goOn x x' answer hx)
        (hf.opening_goOn x answer hopen) (hf'.opening_goOn x' answer hopen')).of_eq ?_ ?_
      · exact goOn_opening (hf.ne_closed hopen) answer
      · exact goOn_opening (hf'.ne_closed hopen') answer
    · have hz' := h'.asks_eq z z' hz
      cases ha : z.asks with
      | true =>
        have hstep : second.Leads onward pulls ⟨[], z⟩ (⟨[], z'⟩ : Turn ω γ last.State) :=
          .inl ⟨rfl, hz⟩
        exact (Leads.joined h' h.closed (Nat.le_refl pulls) (h.goOn x x' answer hx) hstep).of_eq
          (goOn_joinNext x ha answer) (goOn_joinNext x' (hz'.symm.trans ha) answer)
      | false =>
        refine Leads.of_eq ?_ (goOn_joinNext_alone x ha answer)
          (goOn_joinNext_alone x' (hz'.symm.trans ha) answer)
        rcases h'.goOn z z' none hz with ⟨he, hn⟩ | hdrifts
        · exact .inl ⟨he, .inr ⟨_, _, _, _, h.closed, hn, rfl, rfl⟩⟩
        · exact .inr (hdrifts.alone h'.asks_eq h.closed .closed .closed)
  closed := .inr ⟨.closed, .closed, .closed, .closed, h.closed, h'.closed, rfl, rfl⟩

end Chain
end Machine

/-! ## Pipelines -/

/-- The items, or so many of them if they never end. -/
def Items.shortened (n : Nat) : Items α → List α
  | listed items => items
  | endless item => (List.range n).map item

/-- The operation with expansions that never end cut short. -/
def Op.shortened (n : Nat) : Op ω α β → Op ω α β
  | flatMap label f => flatMap label fun x => .listed ((f x).shortened n)
  | op => op

theorem Op.shortened_finiteBursts (n : Nat) (op : Op ω α β) : (op.shortened n).FiniteBursts := by
  cases op with
  | flatMap label f => exact fun x => ⟨_, rfl⟩
  | _ => trivial

open Machine

section FlatMap

variable (f : α → Items β) {n pulls : Nat}

/-- An endless expansion drifts along as many of its items as there are pulls. -/
theorem drifts_flatMap (y : Nat → β) (hle : pulls ≤ n) :
    (flatMapMachine f : Machine ω α β).Drifts Eq pulls ⟨[], .idle (some y)⟩
      ⟨((List.range n).map y).map fun y => .answer (some y), .ask none⟩ := by
  induction pulls generalizing n y with
  | zero => exact .spent rfl ⟨_, .ask none⟩ rfl
  | succ pulls ih =>
    obtain ⟨n, rfl⟩ : ∃ m, n = m + 1 := ⟨n - 1, by omega⟩
    have hrest := (ih (fun i => y (i + 1)) (Nat.le_of_succ_le_succ hle)).behind
      [.answer (some (y 0))]
    refine .later rfl ⟨_, .ask none⟩ rfl ?_
    rw [List.range_succ_eq_map, List.map_cons, List.map_map]
    exact hrest

theorem cuts_flatMap (hle : pulls ≤ n) :
    (flatMapMachine f : Machine ω α β).Cuts
      (flatMapMachine fun x => .listed ((f x).shortened n)) pulls Eq where
  start := .inl ⟨rfl, rfl⟩
  asks_eq := fun _ _ h => congrArg Next.asks h
  goOn := by
    rintro x _ answer rfl
    cases x with
    | closed => exact .inl ⟨rfl, rfl⟩
    | idle s => cases s <;> exact .inl ⟨rfl, rfl⟩
    | ask s =>
      cases s with
      | some y => exact .inl ⟨rfl, rfl⟩
      | none =>
        cases answer with
        | none => exact .inl ⟨rfl, rfl⟩
        | some x =>
          refine (?_ : (flatMapMachine f : Machine ω α β).Leads Eq pulls
            (feedFlatMap f none (some x))
            (feedFlatMap (fun x => .listed ((f x).shortened n)) none (some x)))
          cases hx : f x with
          | listed ys =>
            have hcut := congrArg (fun items => Items.listed (items.shortened n)) hx
            rw [feedFlatMap_listed hx,
              feedFlatMap_listed (f := fun x => .listed ((f x).shortened n)) hcut]
            exact .inl ⟨rfl, rfl⟩
          | endless y =>
            have hcut := congrArg (fun items => Items.listed (items.shortened n)) hx
            rw [feedFlatMap_endless hx,
              feedFlatMap_listed (f := fun x => .listed ((f x).shortened n)) hcut]
            exact .inr (drifts_flatMap f y hle)
  closed := rfl

end FlatMap

theorem Op.cuts (op : Op ω α β) {n pulls : Nat} (hle : pulls ≤ n) :
    ∃ along, op.machine.Cuts (op.shortened n).machine pulls along := by
  cases op with
  | flatMap label f => exact ⟨_, cuts_flatMap f hle⟩
  | _ => exact ⟨_, .refl _ pulls⟩

namespace Transducer

/-- The transducer with expansions that never end cut short. -/
def shortened {α β : Type} (n : Nat) : Transducer ω α β → Transducer ω α β
  | identity => identity
  | op operation => op (operation.shortened n)
  | compose first second => (first.shortened n).compose (second.shortened n)

theorem shortened_finiteBursts (n : Nat) (t : Transducer ω α β) : (t.shortened n).FiniteBursts := by
  induction t with
  | identity => trivial
  | op operation => exact operation.shortened_finiteBursts n
  | compose first second hf hg => exact ⟨hf, hg⟩

theorem cuts (t : Transducer ω α β) {n pulls : Nat} (hle : pulls ≤ n) :
    ∃ along, t.machine.Cuts (t.shortened n).machine pulls along := by
  induction t with
  | identity => exact ⟨_, .refl _ pulls⟩
  | op operation => exact operation.cuts hle
  | compose first second hf hg =>
    obtain ⟨along, hf⟩ := hf
    obtain ⟨onward, hg⟩ := hg
    obtain ⟨horderly⟩ := first.orderly
    obtain ⟨horderly'⟩ := (first.shortened n).orderly
    exact ⟨_, hf.chain horderly horderly' hg⟩

/-- What is seen of a transducer in no more than `n` steps is seen of it if every expansion that
never ends is cut short behind `n` items. -/
theorem exists_session_shortened (t : Transducer ω α β) (input : Nat → Option α) {steps n : Nat}
    (hle : steps ≤ n) : ∃ more, (t.shortened n).session input more = t.session input steps := by
  obtain ⟨along, h⟩ := t.cuts hle
  obtain ⟨more, hmore⟩ := h.session_isPrefix input (Nat.le_refl steps) h.start 0
  exact (t.shortened n).machine.exists_session_eq hmore

end Transducer
end ParseFlow.Pipeline
