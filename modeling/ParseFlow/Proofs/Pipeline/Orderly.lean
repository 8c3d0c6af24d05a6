import ParseFlow.Pipeline.Transducer
import ParseFlow.Proofs.Pipeline.Chain

/-!
# Orderly machines

An orderly machine leaves nothing but notes until it is ready, it becomes ready once and not again,
and once it rests it never asks again, however often it is pulled. When it is told that its input has
ended it reports the end, or rests. Every operation is run by an orderly machine, and a chain of
orderly machines is orderly, so that the machine of every transducer is.
-/
namespace ParseFlow.Pipeline

variable {ω α β γ σ : Type}

/-- The notes as events. -/
def notes (left : List ω) : List (Event ω β) := left.map .note

theorem notes_append (left more : List ω) :
    notes (left ++ more) = (notes left ++ notes more : List (Event ω β)) :=
  List.map_append

theorem not_ends_notes (left : List ω) : ¬ Ends (notes left : List (Event ω β)) := by
  intro h
  obtain ⟨w, -, hw⟩ := List.mem_map.mp h
  cases hw

namespace Turn

/-- The machine does not become ready again, and it goes on in one of the given ways. -/
def Proceeds (running : Next σ → Prop) (turn : Turn ω β σ) : Prop :=
  .ready ∉ turn.events ∧ running turn.next

/-- Nothing but notes comes before the machine is ready, if it becomes ready in this turn. -/
def SetsUp (opening running : Next σ → Prop) (turn : Turn ω β σ) : Prop :=
  ∃ left : List ω, (turn.events = notes left ∧ opening turn.next) ∨
    ∃ after, turn.events = notes left ++ .ready :: after ∧
      (⟨after, turn.next⟩ : Turn ω β σ).Proceeds running

/-- The end is reported, or the input is not asked again. -/
def Heeds (turn : Turn ω β σ) : Prop := Ends turn.events ∨ turn.next.asks = false

/-- The machine has been set up, and it reads whenever it is pulled and is not closed. -/
def Plain (turn : Turn ω β σ) : Prop := turn.Proceeds fun x => ∀ s, x ≠ .idle s

variable {opening running : Next σ → Prop} {turn other : Turn ω β σ} {events : List (Event ω β)}

theorem Proceeds.of_eq (h : turn.Proceeds running) (he : other = turn) :
    other.Proceeds running := by
  rwa [he]

theorem SetsUp.of_eq (h : turn.SetsUp opening running) (he : other = turn) :
    other.SetsUp opening running := by
  rwa [he]

theorem Heeds.of_eq (h : turn.Heeds) (he : other = turn) : other.Heeds := by
  rwa [he]

theorem Heeds.behind (h : turn.Heeds) (events : List (Event ω β)) : (turn.behind events).Heeds :=
  h.imp_left Ends.append_right

theorem Proceeds.behind (h : turn.Proceeds running) (he : .ready ∉ events) :
    (turn.behind events).Proceeds running :=
  ⟨fun hmem => (List.mem_append.mp hmem).elim he h.1, h.2⟩

theorem SetsUp.behind (h : turn.SetsUp opening running) (left : List ω) :
    (turn.behind (notes left)).SetsUp opening running := by
  obtain ⟨more, ⟨he, hn⟩ | ⟨after, he, hp⟩⟩ := h
  · refine ⟨left ++ more, .inl ⟨?_, hn⟩⟩
    rw [Turn.behind, he, notes_append]
  · refine ⟨left ++ more, .inr ⟨after, ?_, hp⟩⟩
    rw [Turn.behind, he, notes_append, List.append_assoc]

/-- A turn that comes after the machine has become ready. -/
theorem Proceeds.behind_ready {left : List ω} {after : List (Event ω β)}
    (h : turn.Proceeds running) (ha : .ready ∉ after) :
    (turn.behind (notes left ++ .ready :: after)).SetsUp opening running := by
  refine ⟨left, .inr ⟨after ++ turn.events, ?_, h.behind ha⟩⟩
  rw [Turn.behind, List.append_assoc]
  rfl

end Turn

namespace Machine

/-- The ways in which a machine that is being set up goes on, and those in which it does when it is
ready. -/
structure Orderly (m : Machine ω α β) where
  opening : Next m.State → Prop
  running : Next m.State → Prop
  start : m.start.SetsUp opening running
  opening_goOn : ∀ x answer, opening x → (m.goOn x answer).SetsUp opening running
  running_goOn : ∀ x answer, running x → (m.goOn x answer).Proceeds running
  running_closed : running .closed
  rests : ∀ x answer, opening x ∨ running x → x.asks = false →
    (m.goOn x answer).next.asks = false
  heeds : ∀ x, opening x ∨ running x → x.asks = true → (m.goOn x none).Heeds

section Reaches

variable {m : Machine ω α β} (h : m.Orderly)

/-- The ways in which a machine goes on that has been set in motion. -/
def Orderly.Reaches (x : Next m.State) : Prop := h.opening x ∨ h.running x

theorem Orderly.reaches_of_setsUp {turn : Turn ω β m.State}
    (ht : turn.SetsUp h.opening h.running) : h.Reaches turn.next := by
  obtain ⟨_, ⟨-, hopen⟩ | ⟨_, -, -, hrun⟩⟩ := ht
  · exact .inl hopen
  · exact .inr hrun

theorem Orderly.reaches_start : h.Reaches m.start.next := h.reaches_of_setsUp h.start

theorem Orderly.Reaches.goOn {x : Next m.State} (hx : h.Reaches x) (answer : Option α) :
    h.Reaches (m.goOn x answer).next := by
  rcases hx with hopen | hrun
  · exact h.reaches_of_setsUp (h.opening_goOn x answer hopen)
  · exact .inr (h.running_goOn x answer hrun).2

end Reaches

/-- A machine that is closed has been set up. -/
theorem Orderly.ne_closed {m : Machine ω α β} (h : m.Orderly) {x : Next m.State}
    (hx : h.opening x) : x ≠ .closed := by
  rintro rfl
  obtain ⟨left, ⟨he, -⟩ | ⟨after, he, -⟩⟩ := h.opening_goOn _ none hx
  · cases left with
    | nil => cases he
    | cons w left => cases he
  · cases left with
    | nil => cases he
    | cons w left => cases he

/-! ## Chains -/

section Chain

variable {first : Machine ω α β} {second : Machine ω β γ} (hf : first.Orderly)
  (hg : second.Orderly)

section Relay

include hg

theorem relay_proceeds (events : List (Event ω β)) {z : Next second.State} (hz : hg.running z) :
    (relay second events z).Proceeds hg.running := by
  induction events generalizing z with
  | nil => exact ⟨List.not_mem_nil, hz⟩
  | cons e events ih =>
    cases z with
    | idle t => rw [relay_idle]; exact ⟨List.not_mem_nil, hz⟩
    | closed => rw [relay_closed]; exact ⟨List.not_mem_nil, hz⟩
    | ask t =>
      cases e with
      | note w =>
        have hw : (.ready : Event ω γ) ∉ [.note w] := by simp
        exact (ih hz).behind hw
      | ready => exact ih hz
      | answer out =>
        obtain ⟨hready, hnext⟩ := hg.running_goOn (.ask t) out hz
        rw [relay_answer]
        exact (ih hnext).behind hready

theorem relay_setsUp (events : List (Event ω β)) {z : Next second.State} (hz : hg.opening z) :
    (relay second events z).SetsUp hg.opening hg.running := by
  induction events generalizing z with
  | nil => exact ⟨[], .inl ⟨rfl, hz⟩⟩
  | cons e events ih =>
    cases z with
    | idle t => rw [relay_idle]; exact ⟨[], .inl ⟨rfl, hz⟩⟩
    | closed => exact absurd rfl (hg.ne_closed hz)
    | ask t =>
      cases e with
      | note w => exact (ih hz).behind [w]
      | ready => exact ih hz
      | answer out =>
        rw [relay_answer]
        obtain ⟨left, ⟨he, hnext⟩ | ⟨after, he, hready, hnext⟩⟩ := hg.opening_goOn (.ask t) out hz
        · have hfeed : (second.feed t out).events = notes left := he
          rw [hfeed]
          exact (ih hnext).behind left
        · have hfeed : (second.feed t out).events = notes left ++ .ready :: after := he
          rw [hfeed]
          exact (relay_proceeds hg events hnext).behind_ready hready

/-- A machine to which the end comes through reports the end itself, or rests. -/
theorem relay_heeds {events : List (Event ω β)} (he : Ends events) {z : Next second.State}
    (hz : hg.Reaches z) : (relay second events z).Heeds := by
  induction events generalizing z with
  | nil => cases he
  | cons e events ih =>
    cases z with
    | idle t => rw [relay_idle]; exact .inr rfl
    | closed => rw [relay_closed]; exact .inr rfl
    | ask t =>
      cases e with
      | note w => exact (ih (ends_note.mp he) hz).behind [.note w]
      | ready => exact ih (ends_ready.mp he) hz
      | answer out =>
        rw [relay_answer]
        cases out with
        | some y =>
          exact (ih (ends_some.mp he) (hz.goOn hg (some y))).behind _
        | none =>
          rcases hg.heeds (.ask t) hz rfl with hends | hrests
          · exact .inl (Ends.append_left hends)
          · have hnext : (second.feed t none).next.asks = false := hrests
            rw [relay_resting second events hnext]
            exact .inr hnext

end Relay

/-- How a chain goes on when it is ready: both machines are. -/
def Orderly.chainRunning (n : Next (ChainState first.State second.State)) : Prop :=
  ∃ x z, hf.running x ∧ hg.running z ∧ n = joinNext x z

/-- How a chain goes on that is being set up: one of the machines is. -/
def Orderly.chainOpening (n : Next (ChainState first.State second.State)) : Prop :=
  (∃ x, hf.opening x ∧ n = x.map .opening) ∨
    ∃ x z, hf.running x ∧ hg.opening z ∧ n = joinNext x z

section Opened

variable (second : Machine ω β γ) {turn : Turn ω β σ} {left : List ω} {after : List (Event ω β)}

theorem open?_notes_append (left : List ω) (events : List (Event ω β)) :
    open? second (notes left ++ events) =
      (notes left ++ (open? second events).1, (open? second events).2) := by
  induction left with
  | nil => rfl
  | cons w left ih =>
    show (.note w :: (open? second (notes left ++ events)).1,
      (open? second (notes left ++ events)).2) = _
    rw [ih]
    rfl

/-- Notes that come before a machine is ready are left before those of the chain. -/
theorem opened_behind_notes (left : List ω) (turn : Turn ω β σ) :
    opened second (turn.behind (notes left)) = (opened second turn).behind (notes left) := by
  simp only [opened, Turn.behind, open?_notes_append]
  obtain ⟨events, _ | next⟩ := open? second turn.events <;> rfl

theorem opened_notes (h : turn.events = notes left) :
    opened second turn = ⟨notes left, turn.next.map .opening⟩ := by
  have hopen := open?_notes_append second left []
  rw [List.append_nil] at hopen
  rw [opened, h, hopen]
  exact congrArg (Turn.mk · _) (List.append_nil _)

theorem opened_notes_ready (h : turn.events = notes left ++ .ready :: after) :
    opened second turn =
      (joined second ⟨after, turn.next⟩ second.start.next).behind
        (notes left ++ second.start.events) := by
  rw [opened, h, open?_notes_append]
  exact congrArg (Turn.mk · _) (List.append_assoc _ _ _).symm

theorem opened_ready_cons (h : turn.events = .ready :: after) :
    opened second turn =
      (joined second ⟨after, turn.next⟩ second.start.next).behind second.start.events :=
  opened_notes_ready second (show turn.events = notes [] ++ .ready :: after from h)

end Opened

section Turns

variable {hf hg} {turn : Turn ω β first.State} {x : Next first.State}

/-- A turn of the second machine is one of the chain. -/
theorem proceeds_joinNext (hx : hf.running x) {other : Turn ω γ second.State}
    (h : other.Proceeds hg.running) : (⟨other.events, joinNext x other.next⟩ : Turn ω γ _).Proceeds
      (Orderly.chainRunning hf hg) :=
  ⟨h.1, x, other.next, hx, h.2, rfl⟩

theorem setsUp_joinNext (hx : hf.running x) {other : Turn ω γ second.State}
    (h : other.SetsUp hg.opening hg.running) :
    (⟨other.events, joinNext x other.next⟩ : Turn ω γ _).SetsUp (Orderly.chainOpening hf hg)
      (Orderly.chainRunning hf hg) := by
  obtain ⟨left, ⟨he, hnext⟩ | ⟨after, he, hready, hnext⟩⟩ := h
  · exact ⟨left, .inl ⟨he, .inr ⟨_, _, hx, hnext, rfl⟩⟩⟩
  · exact ⟨left, .inr ⟨after, he, hready, _, _, hx, hnext, rfl⟩⟩

theorem joined_proceeds (hx : hf.running turn.next) {z : Next second.State} (hz : hg.running z) :
    (joined second turn z).Proceeds (Orderly.chainRunning hf hg) :=
  proceeds_joinNext hx (relay_proceeds hg turn.events hz)

theorem joined_setsUp (hx : hf.running turn.next) {z : Next second.State} (hz : hg.opening z) :
    (joined second turn z).SetsUp (Orderly.chainOpening hf hg) (Orderly.chainRunning hf hg) :=
  setsUp_joinNext hx (relay_setsUp hg turn.events hz)

theorem opened_setsUp (h : turn.SetsUp hf.opening hf.running) :
    (opened second turn).SetsUp (Orderly.chainOpening hf hg) (Orderly.chainRunning hf hg) := by
  obtain ⟨left, ⟨he, hx⟩ | ⟨after, he, -, hx⟩⟩ := h
  · rw [opened_notes second he]
    exact ⟨left, .inl ⟨rfl, .inl ⟨_, hx, rfl⟩⟩⟩
  · rw [opened_notes_ready second he]
    obtain ⟨more, ⟨hs, hz⟩ | ⟨others, hs, hready, hz⟩⟩ := hg.start
    · have hall : notes left ++ second.start.events = notes (left ++ more) := by
        rw [hs, notes_append]
      rw [hall]
      exact (joined_setsUp hx hz).behind (left ++ more)
    · have hall : notes left ++ second.start.events =
          notes (left ++ more) ++ .ready :: others := by
        rw [hs, notes_append, List.append_assoc]
      rw [hall]
      exact (joined_proceeds hx hz).behind_ready hready

/-- A chain that rests goes on resting. -/
theorem goOn_joinNext_rests (hx : hf.running x) {z : Next second.State}
    (hrests : (joinNext x z).asks = false) (answer : Option α) :
    ((first.chain second).goOn (joinNext x z) answer).next.asks = false := by
  cases ha : z.asks with
  | true =>
    have hx' : x.asks = false := by
      rwa [asks_joinNext, ha, Bool.and_true] at hrests
    refine (congrArg (fun turn => turn.next.asks) (goOn_joinNext x ha answer)).trans ?_
    refine (asks_joinNext _ _).trans ?_
    rw [hf.rests x answer (.inr hx) hx', Bool.false_and]
  | false =>
    refine (congrArg (fun turn => turn.next.asks) (goOn_joinNext_alone x ha answer)).trans ?_
    exact asks_joinNext _ _

theorem joined_heeds (ht : turn.Heeds) {z : Next second.State} (hz : hg.Reaches z) :
    (joined second turn z).Heeds := by
  rcases ht with he | hrests
  · refine (relay_heeds hg he hz).imp_right fun hz' => (asks_joinNext _ _).trans ?_
    rw [hz', Bool.and_false]
  · refine .inr ((asks_joinNext _ _).trans ?_)
    rw [hrests, Bool.false_and]

theorem opened_heeds (hg : second.Orderly) (h : turn.SetsUp hf.opening hf.running)
    (ht : turn.Heeds) : (opened second turn).Heeds := by
  obtain ⟨left, ⟨he, -⟩ | ⟨after, he, -⟩⟩ := h
  · have hrests : turn.next.asks = false := by
      refine ht.resolve_left fun hends => ?_
      rw [he] at hends
      exact not_ends_notes left hends
    rw [opened_notes second he]
    exact .inr ((asks_map _ _).trans hrests)
  · have hafter : (⟨after, turn.next⟩ : Turn ω β first.State).Heeds := by
      refine ht.imp_left fun hends => ?_
      rw [he] at hends
      exact ends_ready.mp ((List.mem_append.mp hends).resolve_left (not_ends_notes left))
    rw [opened_notes_ready second he]
    exact (joined_heeds hafter hg.reaches_start).behind _

theorem goOn_joinNext_heeds (hx : hf.running x) {z : Next second.State} (hz : hg.Reaches z)
    (ha : (joinNext x z).asks = true) :
    ((first.chain second).goOn (joinNext x z) none).Heeds := by
  obtain ⟨hxa, hza⟩ := Bool.and_eq_true_iff.mp ((asks_joinNext x z).symm.trans ha)
  exact (joined_heeds (hf.heeds x (.inr hx) hxa) hz).of_eq (goOn_joinNext x hza none)

theorem opened_rests (h : turn.SetsUp hf.opening hf.running) (hrests : turn.next.asks = false) :
    (opened second turn).next.asks = false := by
  obtain ⟨left, ⟨he, -⟩ | ⟨after, he, -⟩⟩ := h
  · rw [opened_notes second he]
    exact (asks_map _ _).trans hrests
  · rw [opened_notes_ready second he]
    refine (asks_joinNext _ _).trans ?_
    rw [hrests, Bool.false_and]

end Turns

/-- A chain of orderly machines is orderly. -/
def Orderly.chain : (first.chain second).Orderly where
  opening := Orderly.chainOpening hf hg
  running := Orderly.chainRunning hf hg
  start := opened_setsUp hf.start
  opening_goOn := by
    rintro _ answer (⟨x, hx, rfl⟩ | ⟨x, z, hx, hz, rfl⟩)
    · exact (opened_setsUp (hf.opening_goOn x answer hx)).of_eq
        (goOn_opening (hf.ne_closed hx) answer)
    · cases ha : z.asks with
      | true =>
        exact (joined_setsUp (hf.running_goOn x answer hx).2 hz).of_eq (goOn_joinNext x ha answer)
      | false =>
        exact (setsUp_joinNext hf.running_closed (hg.opening_goOn z none hz)).of_eq
          (goOn_joinNext_alone x ha answer)
  running_goOn := by
    rintro _ answer ⟨x, z, hx, hz, rfl⟩
    cases ha : z.asks with
    | true =>
      exact (joined_proceeds (hf.running_goOn x answer hx).2 hz).of_eq (goOn_joinNext x ha answer)
    | false =>
      exact (proceeds_joinNext hf.running_closed (hg.running_goOn z none hz)).of_eq
        (goOn_joinNext_alone x ha answer)
  running_closed := ⟨_, _, hf.running_closed, hg.running_closed, rfl⟩
  rests := by
    rintro _ answer ((⟨x, hx, rfl⟩ | ⟨x, z, hx, -, rfl⟩) | ⟨x, z, hx, -, rfl⟩) hrests
    · have hnext := hf.rests x answer (.inl hx) ((asks_map _ x).symm.trans hrests)
      have hgo : (first.chain second).goOn (x.map .opening) answer =
          opened second (first.goOn x answer) := goOn_opening (hf.ne_closed hx) answer
      exact (congrArg (fun turn => turn.next.asks) hgo).trans
        (opened_rests (hf.opening_goOn x answer hx) hnext)
    · exact goOn_joinNext_rests hx hrests answer
    · exact goOn_joinNext_rests hx hrests answer
  heeds := by
    rintro _ ((⟨x, hx, rfl⟩ | ⟨x, z, hx, hz, rfl⟩) | ⟨x, z, hx, hz, rfl⟩) ha
    · have hheeds := hf.heeds x (.inl hx) ((asks_map _ x).symm.trans ha)
      exact (opened_heeds hg (hf.opening_goOn x none hx) hheeds).of_eq
        (goOn_opening (hf.ne_closed hx) none)
    · exact goOn_joinNext_heeds hx (.inl hz) ha
    · exact goOn_joinNext_heeds hx (.inr hz) ha

end Chain

/-! ## Operations -/

section Plain

theorem plain_answerThenAsk (y : β) (s : σ) : (answerThenAsk y s : Turn ω β σ).Plain :=
  ⟨by simp [answerThenAsk], nofun⟩

theorem plain_askOn (s : σ) : (askOn s : Turn ω β σ).Plain :=
  ⟨by simp [askOn], nofun⟩

theorem plain_endThenAsk (s : σ) : (endThenAsk s : Turn ω β σ).Plain :=
  ⟨by simp [endThenAsk], nofun⟩

theorem plain_lastly (items : List β) : (lastly items : Turn ω β σ).Plain :=
  ⟨by simp [lastly], nofun⟩

theorem plain_ite {p : Prop} [Decidable p] {turn other : Turn ω β σ} (ht : turn.Plain)
    (ho : other.Plain) : (if p then turn else other).Plain :=
  iteInduction (motive := Turn.Plain) (fun _ => ht) fun _ => ho

theorem ends_endThenAsk (s : σ) : Ends (endThenAsk s : Turn ω β σ).events :=
  List.mem_singleton_self _

theorem ends_lastly (items : List β) : Ends (lastly items : Turn ω β σ).events :=
  List.mem_append_right _ (List.mem_singleton_self _)

end Plain

/-- A machine that is ready at once, and reports the end when it is told that its input has ended. -/
theorem orderly_of_ready {m : Machine ω α β}
    (hstart : ∃ turn : Turn ω β m.State, m.start = turn.behind [.ready] ∧ turn.Plain)
    (hfeed : ∀ s answer, (m.feed s answer).Plain) (hends : ∀ s, Ends (m.feed s none).events) :
    Nonempty m.Orderly := by
  obtain ⟨turn, hs, hplain⟩ := hstart
  refine ⟨⟨fun _ => False, fun x => ∀ s, x ≠ .idle s, ?_, fun _ _ h => h.elim, ?_, nofun, ?_, ?_⟩⟩
  · rw [hs]
    exact ⟨[], .inr ⟨turn.events, rfl, hplain⟩⟩
  · intro x answer hx
    cases x with
    | ask s => exact hfeed s answer
    | idle s => exact absurd rfl (hx s)
    | closed => exact plain_lastly []
  · rintro x answer (hx | hx) ha
    · exact hx.elim
    · cases x with
      | ask s => cases ha
      | idle s => exact absurd rfl (hx s)
      | closed => rfl
  · intro x _ ha
    cases x with
    | ask s => exact .inl (hends s)
    | idle s => cases ha
    | closed => cases ha

theorem orderly_steady {initial : σ} {feed : σ → Option α → Turn ω β σ}
    (hsome : ∀ s x, (feed s (some x)).Plain)
    (hnone : ∀ s, (feed s none).Plain ∧ Ends (feed s none).events) :
    Nonempty (steady initial feed : Machine ω α β).Orderly := by
  refine orderly_of_ready ⟨askOn initial, rfl, plain_askOn initial⟩ (fun s answer => ?_)
    fun s => (hnone s).2
  cases answer with
  | none => exact (hnone s).1
  | some x => exact hsome s x

theorem orderly_pass : Nonempty (Machine.pass : Machine ω α α).Orderly :=
  orderly_of_ready ⟨askOn (), rfl, plain_askOn ()⟩ (fun _ _ => ⟨by simp [pass], nofun⟩)
    fun _ => List.mem_singleton_self _

theorem orderly_take (count : Nat) : Nonempty (Op.take count : Op ω α α).machine.Orderly := by
  refine orderly_of_ready ⟨if count = 0 then lastly [] else askOn count, ?_, ?_⟩ ?_ ?_
  · by_cases h : count = 0
    · simp [Op.machine, h, lastly, Turn.behind]
    · simp [Op.machine, h, askOn, Turn.behind]
  · exact plain_ite (plain_lastly []) (plain_askOn count)
  · intro (left : Nat) answer
    cases answer with
    | none => exact plain_ite (plain_lastly []) (plain_endThenAsk (left - 1))
    | some x => exact plain_ite (plain_lastly [x]) (plain_answerThenAsk x (left - 1))
  · intro (left : Nat)
    exact iteInduction (motive := fun turn : Turn ω α Nat => Ends turn.events)
      (fun _ => ends_lastly []) fun _ => ends_endThenAsk (left - 1)

/-- An expansion that never ends is gone through without reading on. -/
theorem orderly_flatMap (label : Label) (f : α → Items β) :
    Nonempty (Op.flatMap label f : Op ω α β).machine.Orderly := by
  have hfeed : ∀ s answer, .ready ∉ (feedFlatMap f s answer : Turn ω β _).events := by
    rintro (_ | y) (_ | x)
    · simp [feedFlatMap, lastly]
    · rw [feedFlatMap]
      cases f x <;> simp
    · simp [feedFlatMap]
    · simp [feedFlatMap]
  refine ⟨⟨fun _ => False, fun _ => True, ⟨[], .inr ⟨[], rfl, List.not_mem_nil, trivial⟩⟩,
    fun _ _ h => h.elim, ?_, trivial, ?_, ?_⟩⟩
  · rintro (s | s | _) answer -
    · exact ⟨hfeed s answer, trivial⟩
    · exact ⟨hfeed s none, trivial⟩
    · exact ⟨(plain_lastly []).1, trivial⟩
  · rintro (s | (_ | y) | _) answer - ha
    · cases ha
    · rfl
    · rfl
    · rfl
  · rintro ((_ | y) | s | _) - ha
    · exact .inl (ends_lastly [])
    · exact .inr rfl
    · cases ha
    · cases ha

/-- The first item comes before the machine is ready. -/
theorem orderly_dedupe [DecidableEq α] : Nonempty (Op.dedupe : Op ω α α).machine.Orderly := by
  let opening : Next (Option α) → Prop := fun x => x = .ask none
  let running : Next (Option α) → Prop := fun x => (∃ held, x = .ask (some held)) ∨ x = .closed
  refine ⟨⟨opening, running, ⟨[], .inl ⟨rfl, rfl⟩⟩, ?_, ?_, .inr rfl, ?_, ?_⟩⟩
  · rintro _ (_ | x) rfl
    · exact ⟨[], .inr ⟨[.answer none], rfl, by simp, .inr rfl⟩⟩
    · exact ⟨[], .inr ⟨[], rfl, by simp, .inl ⟨x, rfl⟩⟩⟩
  · rintro _ (_ | x) (⟨held, rfl⟩ | rfl)
    · exact ⟨by simp [goOn, Op.machine, lastly], .inr rfl⟩
    · exact ⟨by simp [goOn], .inr rfl⟩
    · show Turn.Proceeds running
        (if held = x then askOn (some held) else answerThenAsk held (some x))
      by_cases h : held = x
      · rw [if_pos h]
        exact ⟨by simp [askOn], .inl ⟨held, rfl⟩⟩
      · rw [if_neg h]
        exact ⟨by simp [answerThenAsk], .inl ⟨x, rfl⟩⟩
    · exact ⟨by simp [goOn], .inr rfl⟩
  · rintro _ answer (rfl | ⟨held, rfl⟩ | rfl) ha
    · cases ha
    · cases ha
    · rfl
  · rintro _ (rfl | ⟨held, rfl⟩ | rfl) ha
    · exact .inr rfl
    · exact .inr rfl
    · cases ha

/-- Turns in which nothing but the end is reported. -/
theorem last_endThenAsk (s : σ) :
    (endThenAsk s : Turn ω β σ).Plain ∧ Ends (endThenAsk s : Turn ω β σ).events :=
  ⟨plain_endThenAsk s, ends_endThenAsk s⟩

theorem last_lastly (items : List β) :
    (lastly items : Turn ω β σ).Plain ∧ Ends (lastly items : Turn ω β σ).events :=
  ⟨plain_lastly items, ends_lastly items⟩

end Machine

open Machine

/-- The machine of an operation is orderly. -/
theorem Op.orderly (op : Op ω α β) : Nonempty op.machine.Orderly := by
  cases op with
  | map label f =>
    exact orderly_steady (fun _ x => plain_answerThenAsk (f x) ()) fun _ => last_endThenAsk ()
  | filter label keep =>
    refine orderly_steady (fun _ x => ?_) fun _ => last_endThenAsk ()
    exact plain_ite (plain_answerThenAsk x ()) (plain_askOn ())
  | flatMap label f =>
    exact orderly_flatMap label f
  | take count => exact orderly_take count
  | drop count =>
    refine orderly_steady (fun left x => ?_) fun left => ?_
    · cases left with
      | zero => exact plain_answerThenAsk x 0
      | succ left => exact plain_askOn left
    · cases left <;> exact last_endThenAsk 0
  | takeWhile label keep =>
    refine orderly_steady (fun _ x => ?_) fun _ => last_endThenAsk ()
    exact plain_ite (plain_answerThenAsk x ()) (plain_lastly [])
  | dropWhile label skip =>
    refine orderly_steady (fun _ x => ?_) fun skipping => last_endThenAsk skipping
    exact plain_ite (plain_askOn true) (plain_answerThenAsk x false)
  | windowed window hs ht =>
    refine orderly_steady (fun s x => ?_) fun s => ?_
    · cases s with
      | filling buffer =>
        exact plain_ite (plain_askOn _) (plain_ite (plain_answerThenAsk _ _) (plain_askOn _))
      | skipping finished left => exact plain_ite (plain_answerThenAsk _ _) (plain_askOn _)
    · cases s <;> exact last_lastly _
  | dedupe => exact orderly_dedupe
  | unique =>
    refine orderly_steady (fun seen x => ?_) fun seen => last_endThenAsk seen
    exact plain_ite (plain_askOn seen) (plain_answerThenAsk x (x :: seen))
  | sort order =>
    exact orderly_steady (fun held x => plain_askOn (x :: held)) fun _ => last_lastly _
  | sortBy label order =>
    exact orderly_steady (fun held x => plain_askOn (x :: held)) fun _ => last_lastly _
  | scan label f seed text =>
    refine orderly_of_ready ⟨answerThenAsk seed seed, rfl, plain_answerThenAsk seed seed⟩ ?_
      fun acc => ends_endThenAsk acc
    intro acc answer
    cases answer with
    | none => exact plain_endThenAsk acc
    | some x => exact plain_answerThenAsk (f acc x) (f acc x)
  | reduce label f seed text =>
    exact orderly_steady (fun acc x => plain_askOn (f acc x)) fun acc => last_lastly [acc]
  | zip partner text =>
    refine orderly_steady (fun i x => ?_) fun i => last_endThenAsk i
    cases h : partner.get i with
    | none =>
      simp only [h]
      exact plain_endThenAsk i
    | some y =>
      simp only [h]
      exact plain_answerThenAsk (x, y) (i + 1)
  | enumerate =>
    exact orderly_steady (fun i x => plain_answerThenAsk (i, x) (i + 1)) fun i => last_endThenAsk i
  | inspect label observe =>
    exact orderly_steady (fun _ _ => ⟨by simp, nofun⟩) fun _ => last_endThenAsk ()

/-- The machine of a transducer is orderly. -/
theorem Transducer.orderly (t : Transducer ω α β) : Nonempty t.machine.Orderly := by
  induction t with
  | identity => exact orderly_pass
  | op operation => exact operation.orderly
  | compose first second hf hg =>
    obtain ⟨lf⟩ := hf
    obtain ⟨lg⟩ := hg
    exact ⟨lf.chain lg⟩

end ParseFlow.Pipeline
