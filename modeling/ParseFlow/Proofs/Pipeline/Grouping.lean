import ParseFlow.Proofs.Pipeline.Composition
import ParseFlow.Proofs.Pipeline.Session

/-!
# Sessions do not depend on the grouping

Two machines go in step if they show the same events in every turn, ask in the same turns, and go on
so whatever the input answers. Machines in step hold the same sessions, step by step. Chaining
carries this on, chains are in step however they are grouped, and so is a machine with one before or
behind it that passes everything on; hence all groupings of a pipeline hold the same sessions.
-/
namespace ParseFlow.Pipeline

variable {ω α β γ δ σ τ : Type}

namespace Turn

/-- The same events are shown, and the machines go on along with each other. -/
def InStep (along : Next σ → Next τ → Prop) (turn : Turn ω β σ) (other : Turn ω β τ) : Prop :=
  turn.events = other.events ∧ along turn.next other.next

variable {along : Next σ → Next τ → Prop} {turn turn' : Turn ω β σ} {other other' : Turn ω β τ}

theorem InStep.of_eq (h : turn.InStep along other) (ht : turn' = turn) (ho : other' = other) :
    turn'.InStep along other' := by
  rwa [ht, ho]

theorem InStep.behind (h : turn.InStep along other) {events events' : List (Event ω β)}
    (he : events = events') : (turn.behind events).InStep along (other.behind events') := by
  subst he
  exact ⟨congrArg (events ++ ·) h.1, h.2⟩

theorem behind_append (events others : List (Event ω β)) (turn : Turn ω β σ) :
    turn.behind (events ++ others) = (turn.behind others).behind events :=
  congrArg (Turn.mk · _) (List.append_assoc _ _ _)

theorem behind_nil (events : List (Event ω β)) (next : Next σ) :
    (⟨[], next⟩ : Turn ω β σ).behind events = ⟨events, next⟩ :=
  congrArg (Turn.mk · _) (List.append_nil events)

section SetsUp

variable {opening running : Next σ → Prop} {opening' running' : Next τ → Prop}

/-- Machines that show the same events are both set up in a turn, or both still being set up. -/
theorem SetsUp.both (h : turn.SetsUp opening running) (h' : other.SetsUp opening' running')
    (he : turn.events = other.events) :
    (∃ left, turn.events = notes left ∧ opening turn.next ∧ opening' other.next) ∨
      ∃ left after, turn.events = notes left ++ .ready :: after := by
  obtain ⟨left, ⟨hl, hopen⟩ | ⟨after, ha, -⟩⟩ := h
  · obtain ⟨left', ⟨-, hopen'⟩ | ⟨after, ha, -⟩⟩ := h'
    · exact .inl ⟨left, hl, hopen, hopen'⟩
    · exact .inr ⟨left', after, he.trans ha⟩
  · exact .inr ⟨left, after, ha⟩

end SetsUp

end Turn

namespace Machine

/-- The machines go on along with each other in the given ways. -/
structure Along (m n : Machine ω α β) (along : Next m.State → Next n.State → Prop) : Prop where
  start : m.start.InStep along n.start
  asks_eq : ∀ x y, along x y → x.asks = y.asks
  goOn : ∀ x y answer, along x y → (m.goOn x answer).InStep along (n.goOn y answer)
  closed : along .closed .closed

/-- The machines go in step. -/
def InStep (m n : Machine ω α β) : Prop := ∃ along, m.Along n along

section InStep

variable {m n k : Machine ω α β} {along : Next m.State → Next n.State → Prop}

theorem Along.session_eq (h : m.Along n along) (input : Nat → Option α) (steps : Nat)
    {turn : Turn ω β m.State} {other : Turn ω β n.State} (ht : turn.InStep along other)
    (asked : Nat) : m.session input steps asked turn = n.session input steps asked other := by
  induction steps generalizing asked turn other with
  | zero => rfl
  | succ steps ih =>
    obtain ⟨events, x⟩ := turn
    obtain ⟨_, y⟩ := other
    obtain ⟨⟨⟩, hxy⟩ := ht
    cases events with
    | cons e events =>
      have hrest : (⟨events, x⟩ : Turn ω β m.State).InStep along ⟨events, y⟩ := ⟨rfl, hxy⟩
      exact congrArg (e.happening :: ·) (ih hrest asked)
    | nil =>
      cases ha : x.asks with
      | true =>
        have hy : y.asks = true := (h.asks_eq x y hxy).symm.trans ha
        rw [session_asking m ha, session_asking n hy, ih (h.goOn x y _ hxy)]
      | false =>
        have hy : y.asks = false := (h.asks_eq x y hxy).symm.trans ha
        rw [session_resting m ha, session_resting n hy, ih (h.goOn x y _ hxy)]

theorem Along.collect_eq (h : m.Along n along) (input : Items α) :
    m.collectFrom m.start input = n.collectFrom n.start input := by
  let related (turn : Turn ω β m.State) (input : Items α) (other : Turn ω β n.State)
      (input' : Items α) : Prop := turn.InStep along other ∧ input = input'
  have hstart : related m.start input n.start input := ⟨h.start, rfl⟩
  refine collectFrom_congr (fun _ _ _ _ h => h.1.1) ?_ hstart
  rintro turn input other _ ⟨⟨-, hnext⟩, rfl⟩
  have hasks := h.asks_eq _ _ hnext
  cases ha : turn.next.asks with
  | true =>
    rw [pull_asking m ha, pull_asking n (hasks.symm.trans ha)]
    exact ⟨h.goOn _ _ _ hnext, rfl⟩
  | false =>
    rw [pull_resting m ha, pull_resting n (hasks.symm.trans ha)]
    exact ⟨h.goOn _ _ _ hnext, rfl⟩

theorem InStep.refl (m : Machine ω α β) : m.InStep m := by
  refine ⟨Eq, ⟨rfl, rfl⟩, ?_, ?_, rfl⟩
  · rintro x _ rfl
    rfl
  · rintro x _ answer rfl
    exact ⟨rfl, rfl⟩

theorem InStep.symm (h : m.InStep n) : n.InStep m := by
  obtain ⟨along, h⟩ := h
  refine ⟨fun y x => along x y, ⟨h.start.1.symm, h.start.2⟩, fun y x hxy => ?_, ?_, h.closed⟩
  · exact (h.asks_eq x y hxy).symm
  · intro y x answer hxy
    obtain ⟨he, hn⟩ := h.goOn x y answer hxy
    exact ⟨he.symm, hn⟩

theorem InStep.trans (h : m.InStep n) (hk : n.InStep k) : m.InStep k := by
  obtain ⟨along, h⟩ := h
  obtain ⟨onward, hk⟩ := hk
  refine ⟨fun x z => ∃ y, along x y ∧ onward y z, ?_, ?_, ?_, _, h.closed, hk.closed⟩
  · exact ⟨h.start.1.trans hk.start.1, _, h.start.2, hk.start.2⟩
  · rintro x z ⟨y, hxy, hyz⟩
    exact (h.asks_eq x y hxy).trans (hk.asks_eq y z hyz)
  · rintro x z answer ⟨y, hxy, hyz⟩
    obtain ⟨he, hn⟩ := h.goOn x y answer hxy
    obtain ⟨he', hn'⟩ := hk.goOn y z answer hyz
    exact ⟨he.trans he', _, hn, hn'⟩

end InStep

/-! ## Chains of machines in step -/

theorem map_ne_closed {f : σ → τ} {x : Next σ} (hx : x ≠ .closed) : x.map f ≠ .closed := by
  cases x with
  | ask s => exact nofun
  | idle s => exact nofun
  | closed => exact absurd rfl hx

theorem joinNext_ne_closed {x : Next σ} {z : Next τ} (hz : z ≠ .closed) :
    joinNext x z ≠ .closed := by
  cases z with
  | ask t => cases x <;> exact nofun
  | idle t => exact nofun
  | closed => exact absurd rfl hz

theorem joined_behind (second : Machine ω β γ) (events : List (Event ω β)) (turn : Turn ω β σ)
    (z : Next second.State) :
    joined second (turn.behind events) z =
      (joined second turn (relay second events z).next).behind (relay second events z).events := by
  simp only [joined, Turn.behind, relay_append]

theorem goOn_joinNext_of_eq {first : Machine ω α β} {second : Machine ω β γ}
    (x : Next first.State) {z : Next second.State} (hz : z.asks = false) (answer : Option α)
    {turn : Turn ω γ second.State} (h : second.goOn z none = turn) :
    (first.chain second).goOn (joinNext x z) answer =
      ⟨turn.events, joinNext .closed turn.next⟩ := by
  subst h
  exact goOn_joinNext_alone x hz answer

theorem joined_idle (second : Machine ω β γ) (turn : Turn ω β σ) (t : second.State) :
    joined second turn (.idle t) = ⟨[], .idle (.alone t)⟩ := by
  rw [joined, relay_idle]
  rfl

section Congruence

variable {first other : Machine ω α β} {second last : Machine ω β γ}
  {along : Next first.State → Next other.State → Prop}
  {onward : Next second.State → Next last.State → Prop}

/-- The same events make machines in step go on in step. -/
theorem Along.relay (h : second.Along last onward) (events : List (Event ω β))
    {z : Next second.State} {z' : Next last.State} (hz : onward z z') :
    (Machine.relay second events z).InStep onward (Machine.relay last events z') := by
  induction events generalizing z z' with
  | nil => exact ⟨rfl, hz⟩
  | cons e events ih =>
    have ha := h.asks_eq z z' hz
    cases z with
    | ask t =>
      cases z' with
      | ask t' =>
        cases e with
        | note w => exact (ih hz).behind (Eq.refl [.note w])
        | ready => exact ih hz
        | answer out =>
          obtain ⟨he, hn⟩ := h.goOn (.ask t) (.ask t') out hz
          exact (ih hn).behind he
      | idle t' => cases ha
      | closed => cases ha
    | idle t =>
      rw [relay_idle]
      cases z' with
      | ask t' => cases ha
      | idle t' => rw [relay_idle]; exact ⟨rfl, hz⟩
      | closed => rw [relay_closed]; exact ⟨rfl, hz⟩
    | closed =>
      rw [relay_closed]
      cases z' with
      | ask t' => cases ha
      | idle t' => rw [relay_idle]; exact ⟨rfl, hz⟩
      | closed => rw [relay_closed]; exact ⟨rfl, hz⟩

variable (hf : first.Orderly) (hf' : other.Orderly)

/-- How chains go on along with each other: their machines do. -/
def Orderly.chainAlong (along : Next first.State → Next other.State → Prop)
    (onward : Next second.State → Next last.State → Prop)
    (n : Next (ChainState first.State second.State))
    (n' : Next (ChainState other.State last.State)) : Prop :=
  (∃ x x', along x x' ∧ hf.opening x ∧ hf'.opening x' ∧
    n = x.map .opening ∧ n' = x'.map .opening) ∨
    ∃ x x' z z', along x x' ∧ onward z z' ∧ n = joinNext x z ∧ n' = joinNext x' z'

variable {hf hf'} {turn : Turn ω β first.State} {turn' : Turn ω β other.State}

theorem Orderly.chainAlong.asks_eq {n : Next (ChainState first.State second.State)}
    {n' : Next (ChainState other.State last.State)} (h : hf.chainAlong hf' along onward n n')
    (hfirst : ∀ x x', along x x' → x.asks = x'.asks)
    (hsecond : ∀ z z', onward z z' → z.asks = z'.asks) : n.asks = n'.asks := by
  obtain ⟨x, x', hx, -, -, rfl, rfl⟩ | ⟨x, x', z, z', hx, hz, rfl, rfl⟩ := h
  · rw [asks_map, asks_map, hfirst x x' hx]
  · rw [asks_joinNext, asks_joinNext, hfirst x x' hx, hsecond z z' hz]

theorem Along.joined (h : second.Along last onward) (ht : turn.InStep along turn')
    {z : Next second.State} {z' : Next last.State} (hz : onward z z') :
    (Machine.joined second turn z).InStep (Orderly.chainAlong hf hf' along onward)
      (Machine.joined last turn' z') := by
  obtain ⟨events, x⟩ := turn
  obtain ⟨_, x'⟩ := turn'
  obtain ⟨⟨⟩, hx⟩ := ht
  obtain ⟨he, hn⟩ := h.relay events hz
  exact ⟨he, .inr ⟨x, x', _, _, hx, hn, rfl, rfl⟩⟩

theorem Along.opened (h : second.Along last onward) (ht : turn.InStep along turn')
    (hs : turn.SetsUp hf.opening hf.running) (hs' : turn'.SetsUp hf'.opening hf'.running) :
    (Machine.opened second turn).InStep (Orderly.chainAlong hf hf' along onward)
      (Machine.opened last turn') := by
  obtain ⟨he, hx⟩ := ht
  rcases hs.both hs' he with ⟨left, hl, hopen, hopen'⟩ | ⟨left, after, ha⟩
  · rw [opened_notes second hl, opened_notes last (he.symm.trans hl)]
    exact ⟨rfl, .inl ⟨_, _, hx, hopen, hopen', rfl, rfl⟩⟩
  · rw [opened_notes_ready second ha, opened_notes_ready last (he.symm.trans ha)]
    have hrest : (⟨after, turn.next⟩ : Turn ω β first.State).InStep along ⟨after, turn'.next⟩ :=
      ⟨rfl, hx⟩
    exact (h.joined hrest h.start.2).behind (congrArg (notes left ++ ·) h.start.1)

/-- Chains of machines in step are in step. -/
theorem Along.chain (hf : first.Orderly) (hf' : other.Orderly) (h : first.Along other along)
    (h' : second.Along last onward) :
    (first.chain second).Along (other.chain last) (Orderly.chainAlong hf hf' along onward) where
  start := h'.opened h.start hf.start hf'.start
  asks_eq := fun _ _ hn => hn.asks_eq h.asks_eq h'.asks_eq
  goOn := by
    rintro _ _ answer (⟨x, x', hx, hopen, hopen', rfl, rfl⟩ | ⟨x, x', z, z', hx, hz, rfl, rfl⟩)
    · refine (h'.opened (h.goOn x x' answer hx) (hf.opening_goOn x answer hopen)
        (hf'.opening_goOn x' answer hopen')).of_eq ?_ ?_
      · exact goOn_opening (hf.ne_closed hopen) answer
      · exact goOn_opening (hf'.ne_closed hopen') answer
    · have ha := h'.asks_eq z z' hz
      cases hask : z.asks with
      | true =>
        exact (h'.joined (h.goOn x x' answer hx) hz).of_eq (goOn_joinNext x hask answer)
          (goOn_joinNext x' (ha.symm.trans hask) answer)
      | false =>
        obtain ⟨he, hn⟩ := h'.goOn z z' none hz
        refine Turn.InStep.of_eq ⟨he, ?_⟩ (goOn_joinNext_alone x hask answer)
          (goOn_joinNext_alone x' (ha.symm.trans hask) answer)
        exact .inr ⟨.closed, .closed, _, _, h.closed, hn, rfl, rfl⟩
  closed := .inr ⟨.closed, .closed, .closed, .closed, h.closed, h'.closed, rfl, rfl⟩

end Congruence

/-! ## Grouping three machines -/

section Assoc

variable {A : Machine ω α β} {B : Machine ω β γ} {C : Machine ω γ δ}

/-- Events pass through a chain as they pass through its machines one after the other. -/
theorem relay_chain (events : List (Event ω β)) (y : Next B.State) (z : Next C.State) :
    relay (B.chain C) events (joinNext y z) = joined C (relay B events y) z := by
  induction events generalizing y z with
  | nil => rfl
  | cons e events ih =>
    cases z with
    | idle u =>
      rw [joined_idle]
      exact relay_idle _ _ _
    | closed =>
      rw [joined, relay_closed]
      exact relay_closed _ _
    | ask u =>
      cases y with
      | idle t =>
        rw [joined, relay_idle]
        exact relay_idle _ _ _
      | closed =>
        rw [joined, relay_closed]
        exact relay_idle _ _ _
      | ask t =>
        cases e with
        | note w => exact congrArg (Turn.behind [.note w]) (ih (.ask t) (.ask u))
        | ready => exact ih (.ask t) (.ask u)
        | answer out =>
          rw [relay_answer, joined_behind, ← ih]
          rfl

variable (hA : A.Orderly) (hB : B.Orderly)

/-- How the two groupings of three machines go on along with each other: the first is being set up,
the first is ready and the second being set up, or both are ready. -/
inductive Orderly.Regroups : Next (ChainState (ChainState A.State B.State) C.State) →
    Next (ChainState A.State (ChainState B.State C.State)) → Prop
  | first {x : Next A.State} : hA.opening x →
    Regroups ((x.map .opening).map .opening) (x.map .opening)
  | second {x : Next A.State} {y : Next B.State} : hA.running x → hB.opening y →
    Regroups ((joinNext x y).map .opening) (joinNext x (y.map .opening))
  | third {x : Next A.State} {y : Next B.State} (z : Next C.State) : hA.running x →
    hB.running y → Regroups (joinNext (joinNext x y) z) (joinNext x (joinNext y z))

variable {hA hB} {turn : Turn ω β A.State}

theorem joined_regroups (hx : hA.running turn.next) {y : Next B.State} (hy : hB.running y)
    (z : Next C.State) : (joined C (joined B turn y) z).InStep (Orderly.Regroups hA hB)
      (joined (B.chain C) turn (joinNext y z)) := by
  have hchain : joined (B.chain C) turn (joinNext y z) =
      ⟨(joined C (relay B turn.events y) z).events,
        joinNext turn.next (joined C (relay B turn.events y) z).next⟩ := by
    rw [← relay_chain]
    rfl
  refine Turn.InStep.of_eq ⟨rfl, ?_⟩ rfl hchain
  exact .third _ hx (relay_proceeds hB turn.events hy).2

section Opened

variable {events : List (Event ω β)} {x : Next A.State} (hx : hA.running x)

include hx

/-- If the groupings go on in step while the second machine is being set up, then they do behind a
turn of it. -/
theorem opened_regroups_of_setsUp
    (hsetting : ∀ y, hB.opening y →
      (opened C (joined B ⟨events, x⟩ y)).InStep (Orderly.Regroups hA hB)
        (joined (B.chain C) ⟨events, x⟩ (y.map .opening)))
    {turn : Turn ω γ B.State} (ht : turn.SetsUp hB.opening hB.running) :
    (opened C ((joined B ⟨events, x⟩ turn.next).behind turn.events)).InStep
      (Orderly.Regroups hA hB)
      ((joined (B.chain C) ⟨events, x⟩ (opened C turn).next).behind (opened C turn).events) := by
  obtain ⟨left, ⟨hl, hopen⟩ | ⟨after, ha, -, hrunning⟩⟩ := ht
  · rw [opened_notes C hl, hl, opened_behind_notes]
    exact (hsetting turn.next hopen).behind rfl
  · -- The third machine takes what stands behind `ready`, and then what the events come to.
    have hbehind : ((joined B ⟨events, x⟩ turn.next).behind turn.events).events =
        notes left ++ .ready :: (after ++ (relay B events turn.next).events) := by
      rw [ha]
      exact List.append_assoc _ _ _
    have hafter : joined C ⟨after ++ (relay B events turn.next).events,
          joinNext x (relay B events turn.next).next⟩ C.start.next =
        (joined C (joined B ⟨events, x⟩ turn.next) (relay C after C.start.next).next).behind
          (relay C after C.start.next).events :=
      joined_behind C after (joined B ⟨events, x⟩ turn.next) C.start.next
    have hleft := opened_notes_ready C hbehind
    rw [Turn.behind] at hleft
    rw [opened_notes_ready C ha]
    refine ((joined_regroups hx hrunning (relay C after C.start.next).next).behind (Eq.refl
      (notes left ++ C.start.events ++ (relay C after C.start.next).events))).of_eq ?_ rfl
    rw [Turn.behind_append, ← hafter]
    exact hleft

/-- While the second machine is being set up, the groupings go on in step. -/
theorem joined_regroups_of_opening {y : Next B.State} (hy : hB.opening y) :
    (opened C (joined B ⟨events, x⟩ y)).InStep (Orderly.Regroups hA hB)
      (joined (B.chain C) ⟨events, x⟩ (y.map .opening)) := by
  induction events generalizing y with
  | nil => exact ⟨rfl, .second hx hy⟩
  | cons e events ih =>
    cases y with
    | idle t =>
      rw [joined_idle]
      exact Turn.InStep.of_eq ⟨rfl, .second hx hy⟩ rfl (joined_idle _ _ _)
    | closed => exact absurd rfl (hB.ne_closed hy)
    | ask t =>
      cases e with
      | note w =>
        have hw := opened_behind_notes C [w] (joined B ⟨events, x⟩ (.ask t))
        exact ((ih hy).behind (Eq.refl (notes [w]))).of_eq hw rfl
      | ready => exact ih hy
      | answer out =>
        -- The second machine takes a turn, and the other events come behind it.
        exact opened_regroups_of_setsUp hx (fun y => ih) (hB.opening_goOn (.ask t) out hy)

theorem opened_regroups {turn : Turn ω γ B.State} (ht : turn.SetsUp hB.opening hB.running) :
    (opened C ((joined B ⟨events, x⟩ turn.next).behind turn.events)).InStep
      (Orderly.Regroups hA hB)
      ((joined (B.chain C) ⟨events, x⟩ (opened C turn).next).behind (opened C turn).events) :=
  opened_regroups_of_setsUp hx (fun _ => joined_regroups_of_opening hx) ht

end Opened

theorem opened_opened_regroups {turn : Turn ω β A.State}
    (ht : turn.SetsUp hA.opening hA.running) :
    (opened C (opened B turn)).InStep (Orderly.Regroups hA hB) (opened (B.chain C) turn) := by
  obtain ⟨left, ⟨hl, hopen⟩ | ⟨after, ha, -, hrunning⟩⟩ := ht
  · rw [opened_notes B hl, opened_notes (B.chain C) hl, opened_notes C rfl]
    exact ⟨rfl, .first hopen⟩
  · rw [opened_notes_ready B ha, opened_notes_ready (B.chain C) ha, Turn.behind_append,
      opened_behind_notes, Turn.behind_append]
    exact (opened_regroups hrunning hB.start).behind rfl

section GoOn

variable {x : Next A.State} {y : Next B.State}

theorem goOn_regroups_first (hx : hA.opening x) (answer : Option α) :
    (((A.chain B).chain C).goOn ((x.map .opening).map .opening) answer).InStep
      (Orderly.Regroups hA hB) ((A.chain (B.chain C)).goOn (x.map .opening) answer) := by
  have hopen := hA.ne_closed hx
  refine (opened_opened_regroups (hA.opening_goOn x answer hx)).of_eq ?_
    (goOn_opening hopen answer)
  exact (goOn_opening (map_ne_closed hopen) answer).trans
    (congrArg (opened C) (goOn_opening hopen answer))

theorem goOn_regroups_second (hx : hA.running x) (hy : hB.opening y) (answer : Option α) :
    (((A.chain B).chain C).goOn ((joinNext x y).map .opening) answer).InStep
      (Orderly.Regroups hA hB) ((A.chain (B.chain C)).goOn (joinNext x (y.map .opening)) answer) := by
  have hmap : (y.map ChainState.opening : Next (ChainState B.State C.State)).asks = y.asks :=
    asks_map _ y
  have hleft : ((A.chain B).chain C).goOn ((joinNext x y).map .opening) answer =
      opened C ((A.chain B).goOn (joinNext x y) answer) :=
    goOn_opening (joinNext_ne_closed (hB.ne_closed hy)) answer
  cases ha : y.asks with
  | true =>
    refine (joined_regroups_of_opening (hA.running_goOn x answer hx).2 hy).of_eq ?_
      (goOn_joinNext x (hmap.trans ha) answer)
    exact hleft.trans (congrArg (opened C) (goOn_joinNext x ha answer))
  | false =>
    -- The first machine is not asked again: the second is set up behind one that is closed.
    have hB' : (B.chain C).goOn (y.map .opening) none = opened C (B.goOn y none) :=
      goOn_opening (hB.ne_closed hy) none
    have hstep : (opened C ((joined B ⟨[], .closed⟩ (B.goOn y none).next).behind
        (B.goOn y none).events)).InStep (Orderly.Regroups hA hB) _ :=
      opened_regroups hA.running_closed (hB.opening_goOn y none hy)
    refine hstep.of_eq ?_ ?_
    · refine hleft.trans (congrArg (opened C) ?_)
      exact (goOn_joinNext_alone x ha answer).trans (Turn.behind_nil _ _).symm
    · exact (goOn_joinNext_of_eq x (hmap.trans ha) answer hB').trans (Turn.behind_nil _ _).symm

/-- All three machines have begun, and the last of them asks. -/
theorem goOn_regroups_third (hx : hA.running x) (hy : hB.running y) {z : Next C.State}
    (hz : z.asks = true) (answer : Option α) :
    (((A.chain B).chain C).goOn (joinNext (joinNext x y) z) answer).InStep
      (Orderly.Regroups hA hB) ((A.chain (B.chain C)).goOn (joinNext x (joinNext y z)) answer) := by
  have hleft : ((A.chain B).chain C).goOn (joinNext (joinNext x y) z) answer =
      joined C ((A.chain B).goOn (joinNext x y) answer) z := goOn_joinNext _ hz answer
  have hasks : (joinNext y z).asks = y.asks := by rw [asks_joinNext, hz, Bool.and_true]
  cases ha : y.asks with
  | true =>
    refine (joined_regroups (hA.running_goOn x answer hx).2 hy z).of_eq ?_
      (goOn_joinNext x (hasks.trans ha) answer)
    exact hleft.trans (congrArg (joined C · z) (goOn_joinNext x ha answer))
  | false =>
    have hB' : (B.chain C).goOn (joinNext y z) none = joined C (B.goOn y none) z :=
      goOn_joinNext y hz none
    have hstep :
        (joined C ⟨(B.goOn y none).events, joinNext .closed (B.goOn y none).next⟩ z).InStep
          (Orderly.Regroups hA hB) ⟨(joined C (B.goOn y none) z).events,
            joinNext .closed (joined C (B.goOn y none) z).next⟩ :=
      ⟨rfl, .third _ hA.running_closed (hB.running_goOn y none hy).2⟩
    exact hstep.of_eq (hleft.trans (congrArg (joined C · z) (goOn_joinNext_alone x ha answer)))
      (goOn_joinNext_of_eq x (hasks.trans ha) answer hB')

/-- The last machine goes on alone in both groupings. -/
theorem goOn_regroups_alone (x : Next A.State) (y : Next B.State) {z : Next C.State}
    (hz : z.asks = false) (answer : Option α) :
    (((A.chain B).chain C).goOn (joinNext (joinNext x y) z) answer).InStep
      (Orderly.Regroups hA hB) ((A.chain (B.chain C)).goOn (joinNext x (joinNext y z)) answer) := by
  have hasks : (joinNext y z).asks = false := by rw [asks_joinNext, hz, Bool.and_false]
  have hB' : (B.chain C).goOn (joinNext y z) none =
      ⟨(C.goOn z none).events, joinNext .closed (C.goOn z none).next⟩ :=
    goOn_joinNext_alone y hz none
  have hstep : (⟨(C.goOn z none).events,
        joinNext (joinNext .closed .closed) (C.goOn z none).next⟩ : Turn ω δ _).InStep
      (Orderly.Regroups hA hB) ⟨(C.goOn z none).events,
        joinNext .closed (joinNext .closed (C.goOn z none).next)⟩ :=
    ⟨rfl, .third _ hA.running_closed hB.running_closed⟩
  exact hstep.of_eq (goOn_joinNext_alone _ hz answer) (goOn_joinNext_of_eq x hasks answer hB')

end GoOn

theorem Orderly.Regroups.asks_eq {n : Next (ChainState (ChainState A.State B.State) C.State)}
    {n' : Next (ChainState A.State (ChainState B.State C.State))}
    (h : Orderly.Regroups hA hB n n') : n.asks = n'.asks := by
  cases h with
  | first => rw [asks_map, asks_map, asks_map]
  | second => rw [asks_map, asks_joinNext, asks_joinNext, asks_map]
  | third => rw [asks_joinNext, asks_joinNext, asks_joinNext, asks_joinNext, Bool.and_assoc]

/-- Three machines go in step however they are grouped. -/
theorem inStep_assoc (hA : A.Orderly) (hB : B.Orderly) :
    ((A.chain B).chain C).InStep (A.chain (B.chain C)) := by
  refine ⟨Orderly.Regroups hA hB, opened_opened_regroups hA.start, fun _ _ h => h.asks_eq, ?_,
    .third .closed hA.running_closed hB.running_closed⟩
  rintro _ _ answer (hx | ⟨hx, hy⟩ | ⟨z, hx, hy⟩)
  · exact goOn_regroups_first hx answer
  · exact goOn_regroups_second hx hy answer
  · cases hz : z.asks with
    | true => exact goOn_regroups_third hx hy hz answer
    | false => exact goOn_regroups_alone _ _ hz answer

end Assoc

/-! ## Machines that pass everything on -/

section Pass

variable {m : Machine ω α β}

theorem joinNext_of_resting (x y : Next σ) {z : Next τ} (hz : z.asks = false) :
    joinNext x z = joinNext y z := by
  cases z with
  | ask t => cases hz
  | idle t => rfl
  | closed => rfl

variable (h : m.Orderly)

/-- How a machine goes on along with the chain in which it stands behind one that passes everything
on. -/
def Orderly.BehindPass (n : Next (ChainState Unit m.State)) (y : Next m.State) : Prop :=
  h.Reaches y ∧ n = joinNext (.ask ()) y

variable {h}

theorem Orderly.behindPass_goOn {y : Next m.State} (hy : h.Reaches y) (answer : Option α) :
    ((Machine.pass.chain m).goOn (joinNext (.ask ()) y) answer).InStep h.BehindPass
      (m.goOn y answer) := by
  have hnext := hy.goOn h answer
  cases y with
  | ask s =>
    have hstep : (joined m ⟨[.answer answer], .ask ()⟩ (.ask s)).InStep h.BehindPass
        (m.feed s answer) := ⟨List.append_nil _, hnext, rfl⟩
    exact hstep.of_eq (goOn_joinNext _ rfl answer) rfl
  | idle s =>
    have hrests := joinNext_of_resting .closed (.ask ()) (h.rests _ answer hy rfl)
    exact Turn.InStep.of_eq ⟨rfl, hnext, hrests⟩ (goOn_joinNext_alone _ rfl answer) rfl
  | closed => exact Turn.InStep.of_eq ⟨rfl, hnext, rfl⟩ (goOn_joinNext_alone _ rfl answer) rfl

/-- A machine goes in step with itself behind one that passes everything on. -/
theorem inStep_pass_chain (h : m.Orderly) : (Machine.pass.chain m).InStep m := by
  refine ⟨h.BehindPass, ?_, ?_, ?_, .inr h.running_closed, rfl⟩
  · exact ⟨List.append_nil _, h.reaches_start, rfl⟩
  · rintro _ y ⟨-, rfl⟩
    exact asks_joinNext _ _
  · rintro _ y answer ⟨hy, rfl⟩
    exact Orderly.behindPass_goOn hy answer

variable (h) in
/-- How a machine goes on along with the chain in which it stands before one that passes everything
on. -/
def Orderly.BeforePass (n : Next (ChainState m.State Unit)) (x : Next m.State) : Prop :=
  (h.opening x ∧ n = x.map .opening) ∨ (h.running x ∧ n = joinNext x (.ask ())) ∨
    (n = .closed ∧ x = .closed)

theorem relay_pass {events : List (Event ω β)} (h : .ready ∉ events) :
    relay Machine.pass events (.ask ()) = ⟨events, .ask ()⟩ := by
  induction events with
  | nil => rfl
  | cons e events ih =>
    have hrest := ih fun hmem => h (List.mem_cons_of_mem e hmem)
    cases e with
    | note w => exact congrArg (Turn.behind [.note w]) hrest
    | ready => exact absurd List.mem_cons_self h
    | answer out => exact congrArg (Turn.behind [.answer out]) hrest

theorem joined_pass {turn : Turn ω β m.State} (ht : turn.Proceeds h.running) :
    (joined Machine.pass turn (.ask ())).InStep h.BeforePass turn := by
  have hjoined : joined Machine.pass turn (.ask ()) =
      ⟨turn.events, joinNext turn.next (.ask ())⟩ := by
    rw [joined, relay_pass ht.1]
  exact Turn.InStep.of_eq ⟨rfl, .inr (.inl ⟨ht.2, rfl⟩)⟩ hjoined rfl

theorem opened_pass {turn : Turn ω β m.State} (ht : turn.SetsUp h.opening h.running) :
    (opened Machine.pass turn).InStep h.BeforePass turn := by
  obtain ⟨left, ⟨hl, hx⟩ | ⟨after, ha, hp⟩⟩ := ht
  · exact Turn.InStep.of_eq ⟨hl.symm, .inl ⟨hx, rfl⟩⟩ (opened_notes _ hl) rfl
  · have hevents : turn =
        (⟨after, turn.next⟩ : Turn ω β m.State).behind (notes left ++ [.ready]) := by
      rw [Turn.behind, List.append_assoc]
      exact congrArg (Turn.mk · turn.next) ha
    exact ((joined_pass hp).behind rfl).of_eq (opened_notes_ready _ ha) hevents

/-- A machine goes in step with itself before one that passes everything on. -/
theorem inStep_chain_pass (h : m.Orderly) : (m.chain Machine.pass).InStep m := by
  refine ⟨h.BeforePass, opened_pass h.start, ?_, ?_, .inr (.inr ⟨rfl, rfl⟩)⟩
  · rintro _ x (⟨-, rfl⟩ | ⟨-, rfl⟩ | ⟨rfl, rfl⟩)
    · exact asks_map _ x
    · exact (asks_joinNext _ _).trans (Bool.and_true _)
    · rfl
  · rintro _ x answer (⟨hx, rfl⟩ | ⟨hx, rfl⟩ | ⟨rfl, rfl⟩)
    · exact (opened_pass (h.opening_goOn x answer hx)).of_eq
        (goOn_opening (h.ne_closed hx) answer) rfl
    · exact (joined_pass (h.running_goOn x answer hx)).of_eq (goOn_joinNext x rfl answer) rfl
    · exact ⟨rfl, .inr (.inr ⟨rfl, rfl⟩)⟩

end Pass
end Machine

open Machine

namespace Transducer

variable {t u : Transducer ω α β}

/-- The machines of a regrouped transducer go in step. -/
theorem Regrouped.inStep (h : Regrouped t u) : t.machine.InStep u.machine := by
  induction h with
  | refl t => exact .refl _
  | symm _ ih => exact ih.symm
  | trans _ _ ih ih' => exact ih.trans ih'
  | @compose _ _ _ t t' u u' _ _ ih ih' =>
    obtain ⟨ht⟩ := t.orderly
    obtain ⟨ht'⟩ := t'.orderly
    obtain ⟨along, ih⟩ := ih
    obtain ⟨onward, ih'⟩ := ih'
    exact ⟨_, ih.chain ht ht' ih'⟩
  | assoc t u v =>
    obtain ⟨ht⟩ := t.orderly
    obtain ⟨hu⟩ := u.orderly
    exact inStep_assoc ht hu
  | identity_compose t =>
    obtain ⟨ht⟩ := t.orderly
    exact inStep_pass_chain ht
  | compose_identity t =>
    obtain ⟨ht⟩ := t.orderly
    exact inStep_chain_pass ht

/-- Every step of a session is the same however the transducer is grouped. -/
theorem Regrouped.session_eq (h : Regrouped t u) (input : Nat → Option α) (steps : Nat) :
    t.session input steps = u.session input steps := by
  obtain ⟨along, h⟩ := h.inStep
  exact h.session_eq input steps h.start 0

theorem Regrouped.collect_eq (h : Regrouped t u) (input : Items α) :
    t.collect input = u.collect input := by
  obtain ⟨along, h⟩ := h.inStep
  exact h.collect_eq input

theorem Regrouped.stages_eq (h : Regrouped t u) : t.stages = u.stages := by
  rw [← leaves_stages, h.leaves_eq, leaves_stages]

/-- A transducer puts out what the list functions of its stages make of the input, in their order,
if they make a list of it; they do unless an item expands without end. No grouping of the same
operations has other stages or puts out anything else. -/
theorem collect_eq_reference (t : Transducer ω α β) :
    t.leaves.stages = t.stages ∧
      (∀ (items : List α) ys, t.leaves.reference items = some ys → t.collect items = some ys) ∧
      (t.FiniteBursts → ∀ items, ∃ ys, t.leaves.reference items = some ys) ∧
      ∀ u, Regrouped t u → u.stages = t.stages ∧ ∀ input, u.collect input = t.collect input := by
  refine ⟨t.leaves_stages, fun items ys => t.collect_of_reference, fun h => h.exists_reference, ?_⟩
  exact fun u h => ⟨h.stages_eq.symm, fun input => (h.collect_eq input).symm⟩

/-- A pipeline of three operations, and the same ones grouped from the left around the identity. -/
theorem collect_eq_reference_from_left :
    let t : Transducer Unit Nat Nat := (drop 1).compose (dedupe.compose (take 2))
    let u : Transducer Unit Nat Nat := ((drop 1).compose (identity.compose dedupe)).compose (take 2)
    Regrouped t u ∧ u.stages = t.stages ∧
      t.collect ([7, 1, 1, 2, 2, 3] : List Nat) = some [1, 2] ∧
      u.collect ([7, 1, 1, 2, 2, 3] : List Nat) = some [1, 2] := by
  intro t u
  have h : Regrouped t u :=
    (Regrouped.assoc _ _ _).symm.trans
      (.compose (.compose (.refl _) (Regrouped.identity_compose _).symm) (.refl _))
  obtain ⟨-, hreference, -, hregrouped⟩ := collect_eq_reference t
  obtain ⟨hstages, hcollect⟩ := hregrouped u h
  have ht : t.collect ([7, 1, 1, 2, 2, 3] : List Nat) = some [1, 2] :=
    hreference [7, 1, 1, 2, 2, 3] [1, 2] (by decide)
  exact ⟨h, hstages, ht, (hcollect _).trans ht⟩

end Transducer
end ParseFlow.Pipeline
