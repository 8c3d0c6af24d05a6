import ParseFlow.Pipeline.Transducer
import ParseFlow.Proofs.Pipeline.Collecting

/-!
# Sessions

A session is a run together with its consumer: the pipeline is applied, and then it is pulled on and
on, whatever it answers, also behind the end. It is told step by step, so that what a consumer sees
who stops pulling at any point is what some number of steps tells. A session may be held over any
input, also one that goes on after it has answered that it has ended. The stories of a machine are
beginnings of sessions, and what is collected is what a session puts out before it first reports the
end.
-/
namespace ParseFlow.Pipeline

variable {ω α β : Type}

/-! ## Counting reads -/

def Happening.isRead : Happening ω α β → Bool
  | read _ => true
  | _ => false

/-- The number of items read. -/
def reads (story : List (Happening ω α β)) : Nat := story.countP Happening.isRead

section Reads

variable {story others : List (Happening ω α β)}

theorem reads_read (x : α) (rest : List (Happening ω α β)) :
    reads (.read x :: rest) = reads rest + 1 :=
  List.countP_cons_of_pos rfl

theorem reads_append : reads (story ++ others) = reads story + reads others :=
  List.countP_append

theorem reads_happening (e : Event ω β) :
    reads (e.happening :: story : List (Happening ω α β)) = reads story := by
  refine List.countP_cons_of_neg ?_
  cases e with
  | note w => exact nofun
  | ready => exact nofun
  | answer out => cases out <;> exact nofun

/-- An answer of the input is one item at most. -/
theorem reads_answer_le (answer : Option α) :
    reads (answer.toList.map .read : List (Happening ω α β)) ≤ 1 := by
  cases answer with
  | none => exact Nat.zero_le 1
  | some x => exact Nat.le_refl 1

end Reads

/-! ## Steps -/

namespace Machine

/-- What happens in so many steps from a turn on when the input has been asked so often before. The
input answers the question numbered `i`, counting from zero, with `input i`. -/
def session (m : Machine ω α β) (input : Nat → Option α) :
    (steps asked : Nat) → Turn ω β m.State → List (Happening ω α β)
  | 0, _, _ => []
  | steps + 1, asked, ⟨e :: events, next⟩ =>
    e.happening :: session m input steps asked ⟨events, next⟩
  | steps + 1, asked, ⟨[], next⟩ =>
    if next.asks then
      (input asked).toList.map .read ++
        session m input steps (asked + 1) (m.goOn next (input asked))
    else session m input steps asked (m.goOn next none)

section Session

variable (m : Machine ω α β) {input : Nat → Option α} {steps asked : Nat}
  {next : Next m.State}

theorem session_asking (h : next.asks = true) :
    m.session input (steps + 1) asked ⟨[], next⟩ =
      (input asked).toList.map .read ++
        m.session input steps (asked + 1) (m.goOn next (input asked)) := if_pos h

theorem session_resting (h : next.asks = false) :
    m.session input (steps + 1) asked ⟨[], next⟩ =
      m.session input steps asked (m.goOn next none) := by
  rw [session, h]
  rfl

theorem session_events (events : List (Event ω β)) (next : Next m.State) (steps asked : Nat) :
    m.session input (events.length + steps) asked ⟨events, next⟩ =
      events.map Event.happening ++ m.session input steps asked ⟨[], next⟩ := by
  induction events with
  | nil => rw [List.length_nil, Nat.zero_add, List.map_nil, List.nil_append]
  | cons e events ih =>
    rw [List.length_cons, Nat.succ_add, session, ih]
    rfl

/-- A step tells one thing that happens, or nothing. -/
theorem session_step (input : Nat → Option α) (asked : Nat) (turn : Turn ω β m.State) :
    ∃ (front : List (Happening ω α β)) (later : Nat) (rest : Turn ω β m.State),
      front.length ≤ 1 ∧ ∀ steps, m.session input (steps + 1) asked turn =
        front ++ m.session input steps later rest := by
  obtain ⟨_ | ⟨e, events⟩, next⟩ := turn
  · cases h : next.asks with
    | true =>
      refine ⟨_, _, _, ?_, fun steps => m.session_asking h⟩
      cases input asked <;> simp
    | false => exact ⟨[], _, _, Nat.zero_le 1, fun steps => m.session_resting h⟩
  · exact ⟨[e.happening], _, _, Nat.le_refl 1, fun steps => rfl⟩

/-- More steps only add to what is told. -/
theorem session_isPrefix {more : Nat} (h : steps ≤ more) (input : Nat → Option α) (asked : Nat)
    (turn : Turn ω β m.State) :
    m.session input steps asked turn <+: m.session input more asked turn := by
  induction steps generalizing more asked turn with
  | zero => exact List.nil_prefix
  | succ steps ih =>
    obtain ⟨more, rfl⟩ : ∃ fewer, more = fewer + 1 := ⟨more - 1, by omega⟩
    obtain ⟨front, later, rest, -, hstep⟩ := m.session_step input asked turn
    rw [hstep, hstep]
    exact (List.prefix_append_right_inj front).mpr (ih (Nat.le_of_succ_le_succ h) later rest)

theorem length_session_le (input : Nat → Option α) (steps asked : Nat) (turn : Turn ω β m.State) :
    (m.session input steps asked turn).length ≤ steps := by
  induction steps generalizing asked turn with
  | zero => exact Nat.le_refl 0
  | succ steps ih =>
    obtain ⟨front, later, rest, hone, hstep⟩ := m.session_step input asked turn
    have hrest := ih later rest
    rw [hstep, List.length_append]
    omega

/-- The consumer may stop at every point of a session. -/
theorem exists_session_eq {turn : Turn ω β m.State} {front : List (Happening ω α β)}
    (h : front <+: m.session input steps asked turn) :
    ∃ fewer, m.session input fewer asked turn = front := by
  induction steps generalizing asked turn front with
  | zero => exact ⟨0, (List.prefix_nil.mp h).symm⟩
  | succ steps ih =>
    cases front with
    | nil => exact ⟨0, rfl⟩
    | cons happening front =>
      obtain ⟨told, later, rest, hone, hstep⟩ := m.session_step input asked turn
      rw [hstep] at h
      match told, hone with
      | [], _ =>
        obtain ⟨fewer, hfewer⟩ := ih h
        exact ⟨fewer + 1, by rw [hstep, hfewer]; rfl⟩
      | [_], _ =>
        obtain ⟨rfl, hfront⟩ := List.cons_prefix_cons.mp h
        obtain ⟨fewer, hfewer⟩ := ih hfront
        exact ⟨fewer + 1, by rw [hstep, hfewer]; rfl⟩

end Session

/-! ## Stories -/

section Stories

variable (m : Machine ω α β) {input : Nat → Option α} {asked : Nat}

theorem session_of_length (turn : Turn ω β m.State) :
    m.session input turn.events.length asked turn = turn.events.map Event.happening := by
  have h : m.session input (turn.events.length + 0) asked turn = _ :=
    m.session_events turn.events turn.next 0 asked
  rwa [Nat.add_zero, session, List.append_nil] at h

theorem session_read {x : α} (hx : input asked = some x) (events : List (Event ω β))
    (s : m.State) (steps : Nat) :
    m.session input (events.length + (steps + 1)) asked ⟨events, .ask s⟩ =
      events.map Event.happening ++
        .read x :: m.session input steps (asked + 1) (m.feed s (some x)) := by
  rw [session_events, session_asking m rfl, hx]
  rfl

/-- The story over a list is told by a session over any input that answers with its items and then
that it has ended, whatever it answers later. -/
theorem exists_session_eq_story {items : List α}
    (h : ∀ i, i ≤ items.length → input (asked + i) = items[i]?) (turn : Turn ω β m.State) :
    ∃ steps, m.session input steps asked turn = m.story turn items := by
  induction items generalizing asked turn with
  | nil =>
    obtain ⟨events, _ | _ | _⟩ := turn
    case ask s =>
      have hnone : input asked = none := h 0 (Nat.le_refl 0)
      refine ⟨events.length + ((m.feed s none).events.length + 1), ?_⟩
      rw [session_events, session_asking m rfl, hnone]
      exact congrArg (events.map Event.happening ++ ·) (m.session_of_length (m.feed s none))
    all_goals exact ⟨_, m.session_of_length _⟩
  | cons x items ih =>
    obtain ⟨events, _ | _ | _⟩ := turn
    case ask s =>
      have hx : input asked = some x := h 0 (Nat.zero_le _)
      have hlater : ∀ i, i ≤ items.length → input (asked + 1 + i) = items[i]? := by
        intro i hi
        rw [Nat.add_assoc, Nat.add_comm 1 i, h (i + 1) (Nat.succ_le_succ hi),
          List.getElem?_cons_succ]
      obtain ⟨steps, hs⟩ := ih hlater (m.feed s (some x))
      exact ⟨_, (m.session_read hx events s steps).trans (by rw [hs, story])⟩
    all_goals exact ⟨_, m.session_of_length _⟩

/-- What is told so far is told by a session over any input that begins with the items. -/
theorem exists_session_eq_storySoFar {items : List α}
    (h : ∀ i, i < items.length → input (asked + i) = items[i]?) (turn : Turn ω β m.State) :
    ∃ steps, m.session input steps asked turn = m.storySoFar turn items := by
  induction items generalizing asked turn with
  | nil => obtain ⟨events, _ | _ | _⟩ := turn <;> exact ⟨_, m.session_of_length _⟩
  | cons x items ih =>
    obtain ⟨events, _ | _ | _⟩ := turn
    case ask s =>
      have hx : input asked = some x := h 0 (Nat.succ_pos _)
      have hlater : ∀ i, i < items.length → input (asked + 1 + i) = items[i]? := by
        intro i hi
        rw [Nat.add_assoc, Nat.add_comm 1 i, h (i + 1) (Nat.succ_lt_succ hi),
          List.getElem?_cons_succ]
      obtain ⟨steps, hs⟩ := ih hlater (m.feed s (some x))
      exact ⟨_, (m.session_read hx events s steps).trans (by rw [hs, storySoFar])⟩
    all_goals exact ⟨_, m.session_of_length _⟩

end Stories

end Machine

/-! ## Collecting -/

/-- The answer to the question numbered `i`. -/
def Items.get? : Items α → (i : Nat) → Option α
  | listed items, i => items[i]?
  | endless item, i => some (item i)

theorem Items.get?_zero (items : Items α) : items.get? 0 = items.head? := by
  cases items with
  | listed items => exact List.head?_eq_getElem?.symm
  | endless item => rfl

theorem Items.get?_succ (items : Items α) (i : Nat) : items.get? (i + 1) = items.tail.get? i := by
  cases items with
  | listed items => exact List.getElem?_tail.symm
  | endless item => rfl

/-- The first items of an unbounded input. -/
def first (input : Nat → α) (n : Nat) : List α := (List.range n).map input

theorem first_of_le (input : Nat → α) {m n : Nat} (h : m ≤ n) :
    ∃ others, first input n = first input m ++ others := by
  obtain ⟨more, rfl⟩ := Nat.exists_eq_add_of_le h
  refine ⟨((List.range more).map (m + ·)).map input, ?_⟩
  rw [first, List.range_add, List.map_append]
  rfl

theorem length_first (input : Nat → α) (n : Nat) : (first input n).length = n := by
  rw [first, List.length_map, List.length_range]

theorem getElem?_first (input : Nat → α) {n i : Nat} (h : i < n) :
    (first input n)[i]? = some (input i) := by
  rw [first, List.getElem?_map, List.getElem?_range h]
  rfl

/-- The answers to the first `n` questions; from then on the input has ended. -/
def limited (n : Nat) (input : Nat → Option α) (i : Nat) : Option α :=
  if i < n then input i else none

/-- The first items, so many if there are as many. -/
def Items.upTo (n : Nat) : Items α → List α
  | listed items => items.take n
  | endless item => first item n

theorem Items.get?_upTo (items : Items α) (n i : Nat) :
    (Items.listed (items.upTo n)).get? i = limited n items.get? i := by
  cases items with
  | listed items => exact List.getElem?_take
  | endless item =>
    by_cases h : i < n
    · rw [limited, if_pos h]
      exact getElem?_first item h
    · rw [limited, if_neg h]
      exact List.getElem?_eq_none ((length_first item n).symm ▸ Nat.le_of_not_lt h)

theorem outputs_ended (front rest : List (Happening ω α β)) :
    outputs (front ++ .ended :: rest) = outputs front := by
  induction front with
  | nil => rfl
  | cons e front ih =>
    cases e with
    | output y => exact congrArg (List.cons y) ih
    | ended => rfl
    | read x => exact ih
    | note w => exact ih
    | applied => exact ih

/-- What is told comes to its first end, and these items have been put out before. -/
def EndsWith (ys : List β) (told : List (Happening ω α β)) : Prop :=
  ∃ front, told = front ++ [.ended] ∧ .ended ∉ front ∧ outputs front = ys

section EndsWith

variable {told : List (Happening ω α β)} {ys zs : List β}

theorem endsWith_cons {h : Happening ω α β} (hh : h ≠ .ended) :
    EndsWith zs (h :: told) ↔ ∃ ys, EndsWith ys told ∧ zs = outputs [h] ++ ys := by
  have hout : ∀ front, outputs (h :: front) = outputs [h] ++ outputs front := by
    intro front
    cases h with
    | ended => exact absurd rfl hh
    | _ => rfl
  constructor
  · rintro ⟨_ | ⟨_, front⟩, htold, hfront, rfl⟩
    · exact absurd (List.cons.inj htold).1 hh
    · obtain ⟨rfl, rfl⟩ := List.cons.inj htold
      exact ⟨_, ⟨front, rfl, fun hmem => hfront (List.mem_cons_of_mem _ hmem), rfl⟩, hout front⟩
  · rintro ⟨ys, ⟨front, rfl, hfront, rfl⟩, rfl⟩
    refine ⟨h :: front, rfl, fun hmem => ?_, hout front⟩
    rcases List.mem_cons.mp hmem with he | hmem
    · exact hh he.symm
    · exact hfront hmem

theorem endsWith_read {x : Option α} :
    EndsWith zs (x.toList.map .read ++ told) ↔ EndsWith zs told := by
  cases x with
  | none => rfl
  | some x =>
    refine (endsWith_cons (h := .read x) nofun).trans ?_
    exact ⟨fun ⟨_, h, he⟩ => he ▸ h, fun h => ⟨zs, h, rfl⟩⟩

theorem endsWith_event {e : Event ω β} (he : e ≠ .answer none) :
    EndsWith zs (e.happening :: told) ↔ ∃ ys, EndsWith ys told ∧ zs = passing [e] ys := by
  have hne : (e.happening : Happening ω α β) ≠ .ended := by
    obtain _ | _ | _ | _ := e <;> simp_all [Event.happening]
  have hpass : ∀ ys, outputs [(e.happening : Happening ω α β)] ++ ys = passing [e] ys := by
    intro ys
    obtain _ | _ | _ | _ := e <;> first | rfl | exact absurd rfl he
  simp only [endsWith_cons hne, hpass]

end EndsWith

namespace Machine

variable {m : Machine ω α β} {input : Nat → Option α}

/-- A session tells the events of a turn, as far as the end if that is among them. -/
theorem exists_endsWith_events {asked : Nat} {next : Next m.State} {events : List (Event ω β)}
    {ys : List β}
    (h : Ends events ∨ ∃ steps, EndsWith ys (m.session input steps asked ⟨[], next⟩)) :
    ∃ steps, EndsWith (passing events ys) (m.session input steps asked ⟨events, next⟩) := by
  induction events with
  | nil => exact h.resolve_left List.not_mem_nil
  | cons e events ih =>
    by_cases he : e = .answer none
    · subst he
      exact ⟨1, [], rfl, List.not_mem_nil, rfl⟩
    · have hrest : Ends events ∨ ∃ steps, EndsWith ys (m.session input steps asked ⟨[], next⟩) :=
        h.imp_left fun h => (List.mem_cons.mp h).resolve_left (Ne.symm he)
      obtain ⟨steps, hs⟩ := ih hrest
      exact ⟨steps + 1, (endsWith_event he).mpr ⟨_, hs, passing_append [e] events ys⟩⟩

theorem Collects.exists_endsWith {turn : Turn ω β m.State} {items : Items α} {ys : List β}
    (h : m.Collects turn items ys) {asked : Nat} (hi : ∀ i, input (asked + i) = items.get? i) :
    ∃ steps, EndsWith ys (m.session input steps asked turn) := by
  induction h generalizing asked with
  | ends h => exact exists_endsWith_events (.inl h)
  | @later turn items ys _ ih =>
    refine exists_endsWith_events (.inr ?_)
    cases ha : turn.next.asks with
    | true =>
      rw [pull_asking m ha] at ih
      have hnow : input asked = items.head? := (hi 0).trans items.get?_zero
      have hlater : ∀ i, input (asked + 1 + i) = items.tail.get? i := by
        intro i
        rw [Nat.add_assoc, Nat.add_comm 1 i, hi, Items.get?_succ]
      obtain ⟨steps, hs⟩ := ih hlater
      refine ⟨steps + 1, ?_⟩
      rw [session_asking m ha, endsWith_read, hnow]
      exact hs
    | false =>
      rw [pull_resting m ha] at ih
      obtain ⟨steps, hs⟩ := ih hi
      exact ⟨steps + 1, (m.session_resting ha).symm ▸ hs⟩

theorem collects_of_endsWith {steps asked : Nat} {turn : Turn ω β m.State} {items : Items α}
    {ys : List β} (hi : ∀ i, input (asked + i) = items.get? i)
    (h : EndsWith ys (m.session input steps asked turn)) : m.Collects turn items ys := by
  induction steps generalizing asked turn items ys with
  | zero =>
    obtain ⟨front, hf, -⟩ := h
    exact absurd hf (List.append_ne_nil_of_right_ne_nil front (List.cons_ne_nil _ _)).symm
  | succ steps ih =>
    obtain ⟨_ | ⟨e, events⟩, next⟩ := turn
    · suffices hlater : m.Collects (m.pull next items).1 (m.pull next items).2 ys from hlater.later
      cases ha : next.asks with
      | true =>
        have hnow : input asked = items.head? := (hi 0).trans items.get?_zero
        have hlater : ∀ i, input (asked + 1 + i) = items.tail.get? i := by
          intro i
          rw [Nat.add_assoc, Nat.add_comm 1 i, hi, Items.get?_succ]
        rw [session_asking m ha, endsWith_read, hnow] at h
        rw [pull_asking m ha]
        exact ih hlater h
      | false =>
        rw [session_resting m ha] at h
        rw [pull_resting m ha]
        exact ih hi h
    · by_cases he : e = .answer none
      · subst he
        obtain ⟨_ | ⟨_, front⟩, hf, hfront, rfl⟩ := h
        · exact .ends List.mem_cons_self
        · obtain ⟨rfl, -⟩ := List.cons.inj hf
          exact absurd List.mem_cons_self hfront
      · obtain ⟨ys, hs, rfl⟩ := (endsWith_event he).mp h
        have hrest := collectFrom_eq_some_iff.mpr (ih hi hs)
        refine collectFrom_eq_some_iff.mp ?_
        exact (m.collectFrom_behind [e] ⟨events, next⟩ items).trans
          ((congrArg (passed [e]) hrest).trans (passed_some [e] ys))

end Machine

namespace Transducer

/-- What happens in the first steps of a session, from applying the transducer on. -/
def session (t : Transducer ω α β) (input : Nat → Option α) (steps : Nat) :
    List (Happening ω α β) :=
  t.machine.session input steps 0 t.machine.start

/-- What is collected are the outputs of a session up to the end that it first reports. -/
theorem collect_eq_some_iff (t : Transducer ω α β) (items : Items α) (ys : List β) :
    t.collect items = some ys ↔ ∃ steps, EndsWith ys (t.session items.get? steps) := by
  have hi : ∀ i, items.get? (0 + i) = items.get? i := fun i => congrArg items.get? (Nat.zero_add i)
  refine Machine.collectFrom_eq_some_iff.trans ⟨fun h => h.exists_endsWith hi, ?_⟩
  rintro ⟨steps, h⟩
  exact Machine.collects_of_endsWith hi h

theorem exists_session_eq_story (t : Transducer ω α β) (items : List α) :
    ∃ steps, t.session (Items.listed items).get? steps = t.story items :=
  t.machine.exists_session_eq_story (fun i _ => by rw [Nat.zero_add]; rfl) t.machine.start

theorem exists_session_eq_storySoFar (t : Transducer ω α β) (input : Nat → α) (n : Nat) :
    ∃ steps, t.session (Items.endless input).get? steps =
      t.machine.storySoFar t.machine.start (first input n) := by
  refine t.machine.exists_session_eq_storySoFar (fun i hi => ?_) t.machine.start
  rw [length_first] at hi
  rw [Nat.zero_add, getElem?_first input hi]
  rfl

/-- A story that comes to an end puts out what is collected. -/
theorem outputs_story {t : Transducer ω α β} {items : List α} {ys : List β}
    (h : t.collect items = some ys) (hended : .ended ∈ t.story items) :
    outputs (t.story items) = ys := by
  obtain ⟨steps, hs⟩ := t.exists_session_eq_story items
  obtain ⟨front, rest, hsplit, hfront⟩ := List.eq_append_cons_of_mem hended
  have hprefix : front ++ [.ended] <+: t.session (Items.listed items).get? steps :=
    ⟨rest, by rw [hs, hsplit, List.append_assoc]; rfl⟩
  obtain ⟨fewer, hfewer⟩ := t.machine.exists_session_eq hprefix
  have hcollect : t.collect items = some (outputs front) :=
    (t.collect_eq_some_iff items _).mpr ⟨fewer, front, hfewer, hfront, rfl⟩
  rw [hsplit, outputs_ended]
  exact Option.some.inj (hcollect.symm.trans h)

end Transducer
end ParseFlow.Pipeline
