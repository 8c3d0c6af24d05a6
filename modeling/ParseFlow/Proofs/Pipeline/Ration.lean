import ParseFlow.Proofs.Pipeline.Grouping

/-!
# Rationed reading

A machine on a ration asks its input so many times and no more, in whatever order it is pulled and
whatever the input answers. A machine that takes a number of items is on a ration of that many, and
it keeps any machine behind it to the same one, so that a pipeline that begins by taking some items
collects in finitely many steps what the rest of it makes of them.
-/
namespace ParseFlow.Pipeline

variable {ω α β γ : Type}

namespace Machine

/-- The ways in which a machine goes on with what is left of its ration, of which each question uses
up one. -/
structure Rationed (m : Machine ω α β) (within : Nat → Next m.State → Prop) : Prop where
  asking : ∀ left x, within left x → x.asks = true →
    ∃ less, left = less + 1 ∧ ∀ answer, within less (m.goOn x answer).next
  resting : ∀ left x, within left x → x.asks = false → within left (m.goOn x none).next
  closed : ∀ left, within left .closed

namespace Rationed

variable {m : Machine ω α β} {within : Nat → Next m.State → Prop} (h : m.Rationed within)

include h

theorem reads_session_le (input : Nat → Option α) (steps asked : Nat) {left : Nat}
    {turn : Turn ω β m.State} (ht : within left turn.next) :
    reads (m.session input steps asked turn) ≤ left := by
  induction steps generalizing asked left turn with
  | zero => exact Nat.zero_le left
  | succ steps ih =>
    obtain ⟨events, x⟩ := turn
    cases events with
    | cons e events =>
      rw [session, reads_happening]
      exact ih asked ht
    | nil =>
      cases ha : x.asks with
      | true =>
        obtain ⟨less, rfl, hless⟩ := h.asking left x ht ha
        have hread := reads_answer_le (ω := ω) (β := β) (input asked)
        have hrest := ih (asked + 1) (hless (input asked))
        rw [session_asking m ha, reads_append]
        omega
      | false =>
        rw [session_resting m ha]
        exact ih asked (h.resting left x ht ha)

/-- What the input would answer behind the ration does not matter. -/
theorem session_congr {input other : Nat → Option α} (steps asked : Nat) {left : Nat}
    {turn : Turn ω β m.State} (ht : within left turn.next)
    (hinput : ∀ i, i < left → input (asked + i) = other (asked + i)) :
    m.session input steps asked turn = m.session other steps asked turn := by
  induction steps generalizing asked left turn with
  | zero => rfl
  | succ steps ih =>
    obtain ⟨events, x⟩ := turn
    cases events with
    | cons e events => exact congrArg (e.happening :: ·) (ih asked ht hinput)
    | nil =>
      cases ha : x.asks with
      | true =>
        obtain ⟨less, rfl, hless⟩ := h.asking left x ht ha
        have hnow : input asked = other asked := hinput 0 (Nat.succ_pos less)
        have hlater : ∀ i, i < less → input (asked + 1 + i) = other (asked + 1 + i) := by
          intro i hi
          have hi' := hinput (1 + i) (by omega)
          rwa [← Nat.add_assoc] at hi'
        rw [session_asking m ha, session_asking m ha, ← hnow,
          ih (asked + 1) (hless (input asked)) hlater]
      | false =>
        rw [session_resting m ha, session_resting m ha]
        exact ih asked (h.resting left x ht ha) hinput

end Rationed

section Chain

variable {first : Machine ω α β} {second : Machine ω β γ}

/-- How a chain goes on when its first machine is ready and goes on within its ration. -/
def chainWithin (second : Machine ω β γ) (within : Nat → Next first.State → Prop) (left : Nat)
    (n : Next (ChainState first.State second.State)) : Prop :=
  ∃ x z, n = joinNext x z ∧ within left x

/-- A machine keeps any other behind it to its own ration. -/
theorem Rationed.chain {within : Nat → Next first.State → Prop} (h : first.Rationed within)
    (second : Machine ω β γ) : (first.chain second).Rationed (chainWithin second within) where
  asking := by
    rintro left _ ⟨x, z, rfl, hx⟩ ha
    obtain ⟨hxa, hza⟩ := Bool.and_eq_true_iff.mp ((asks_joinNext x z).symm.trans ha)
    obtain ⟨less, hleft, hless⟩ := h.asking left x hx hxa
    refine ⟨less, hleft, fun answer => ?_⟩
    exact ⟨_, _, congrArg Turn.next (goOn_joinNext x hza answer), hless answer⟩
  resting := by
    rintro left _ ⟨x, z, rfl, hx⟩ ha
    cases hz : z.asks with
    | true =>
      have hrests := (asks_joinNext x z).symm.trans ha
      rw [hz, Bool.and_true] at hrests
      exact ⟨_, _, congrArg Turn.next (goOn_joinNext x hz none), h.resting left x hx hrests⟩
    | false => exact ⟨_, _, congrArg Turn.next (goOn_joinNext_alone x hz none), h.closed left⟩
  closed left := ⟨.closed, .closed, rfl, h.closed left⟩

end Chain

/-! ## Taking a number of items -/

/-- How a machine goes on that takes no more than so many items from now on. -/
def takesWithin (left : Nat) (x : Next Nat) : Prop :=
  x = .closed ∨ ∃ count, x = .ask count ∧ 0 < count ∧ count ≤ left

theorem takesWithin_feed (less : Nat) {count : Nat} (hcount : count ≤ less + 1)
    (answer : Option α) :
    takesWithin less ((Op.take count : Op ω α α).machine.feed count answer).next := by
  have hnext : ∀ (turn other : Turn ω α Nat), turn.next = .closed → other.next = .ask (count - 1) →
      takesWithin less (if count ≤ 1 then turn else other).next := by
    intro turn other hturn hother
    by_cases h : count ≤ 1
    · rw [if_pos h]
      exact .inl hturn
    · rw [if_neg h]
      exact .inr ⟨count - 1, hother, by omega, by omega⟩
  cases answer with
  | none => exact hnext _ _ rfl rfl
  | some x => exact hnext _ _ rfl rfl

/-- A machine that takes a number of items is on a ration of that many. -/
theorem rationed_take (n : Nat) : (Op.take n : Op ω α α).machine.Rationed takesWithin where
  asking := by
    rintro left _ (rfl | ⟨count, rfl, hpos, hle⟩) ha
    · cases ha
    · cases left with
      | zero => omega
      | succ less => exact ⟨less, rfl, takesWithin_feed less hle⟩
  resting := by
    rintro left _ (rfl | ⟨count, rfl, -, -⟩) ha
    · exact .inl rfl
    · cases ha
  closed _ := .inl rfl

theorem take_start (n : Nat) :
    ∃ after, (Op.take n : Op ω α α).machine.start.events = .ready :: after ∧
      takesWithin n (Op.take n : Op ω α α).machine.start.next := by
  by_cases h : n = 0
  · subst h
    exact ⟨[.answer none], rfl, .inl rfl⟩
  · have hs : (Op.take n : Op ω α α).machine.start = ⟨[.ready], .ask n⟩ := if_neg h
    rw [hs]
    exact ⟨[], rfl, .inr ⟨n, rfl, Nat.pos_of_ne_zero h, Nat.le_refl n⟩⟩

/-- Whatever stands behind it is on the same ration from the start. -/
theorem chainWithin_take_start (n : Nat) (m : Machine ω α β) :
    chainWithin m takesWithin n ((Op.take n).machine.chain m).start.next := by
  obtain ⟨after, hevents, hnext⟩ := take_start (ω := ω) (α := α) n
  have hs := opened_ready_cons m hevents
  exact ⟨_, _, congrArg Turn.next hs, hnext⟩

end Machine

open Machine

/-! ## Inputs that go on behind their end -/

namespace Machine

/-- A machine that comes to its end over a list does so over every input that answers with its items
and then that it has ended, whatever the input answers later: it is not asked again. -/
theorem Collects.exists_endsWith_of_heeding {m : Machine ω α β} (ho : m.Orderly)
    {input : Nat → Option α} {turn : Turn ω β m.State} {items : List α} {ys : List β}
    (h : m.Collects turn (.listed items) ys) (hreaches : ho.Reaches turn.next) {asked : Nat}
    (hi : turn.next.asks = false ∨ ∀ i, i ≤ items.length → input (asked + i) = items[i]?) :
    ∃ steps, EndsWith ys (m.session input steps asked turn) := by
  generalize hall : Items.listed items = all at h
  induction h generalizing items asked with
  | ends h => exact exists_endsWith_events (.inl h)
  | @later turn all ys hlater ih =>
    subst hall
    refine exists_endsWith_events (.inr ?_)
    cases ha : turn.next.asks with
    | false =>
      rw [pull_resting m ha] at ih
      have hrests := ho.rests turn.next none hreaches ha
      obtain ⟨steps, hs⟩ := ih (hreaches.goOn ho none) (.inl hrests) rfl
      exact ⟨steps + 1, (m.session_resting ha).symm ▸ hs⟩
    | true =>
      have hi := hi.resolve_left fun hrests => Bool.false_ne_true (hrests.symm.trans ha)
      have hnow : input asked = items.head? := by
        rw [List.head?_eq_getElem?, ← hi 0 (Nat.zero_le _), Nat.add_zero]
      rw [pull_asking m ha] at ih hlater
      suffices hnext : ∃ steps,
          EndsWith ys (m.session input steps (asked + 1) (m.goOn turn.next items.head?)) by
        obtain ⟨steps, hs⟩ := hnext
        refine ⟨steps + 1, ?_⟩
        rw [session_asking m ha, endsWith_read, hnow]
        exact hs
      cases items with
      | cons x items =>
        refine ih (hreaches.goOn ho (some x)) (.inr fun i hle => ?_) rfl
        rw [Nat.add_assoc, Nat.add_comm 1 i, hi (i + 1) (Nat.succ_le_succ hle)]
        exact List.getElem?_cons_succ
      | nil =>
        rcases ho.heeds turn.next hreaches ha with hends | hrests
        · have hys := (collectFrom_of_ends m hends (.listed [])).symm.trans
            (collectFrom_eq_some_iff.mpr hlater)
          obtain rfl := Option.some.inj hys
          exact exists_endsWith_events (.inl hends)
        · exact ih (hreaches.goOn ho none) (.inl hrests) rfl

end Machine

/-! ## The first items of an input -/

/-- The items that an input answers with until it first answers that it has ended, so many at
most. -/
def beginning (input : Nat → Option α) : Nat → List α
  | 0 => []
  | n + 1 => match input 0 with
    | some x => x :: beginning (fun i => input (i + 1)) n
    | none => []

section Beginning

theorem beginning_unbounded (input : Nat → α) (n : Nat) :
    beginning (fun i => some (input i)) n = first input n := by
  induction n generalizing input with
  | zero => rfl
  | succ n ih =>
    rw [first, List.range_succ_eq_map, List.map_cons, List.map_map]
    exact congrArg (List.cons (input 0)) (ih fun i => input (i + 1))

theorem length_beginning_le (input : Nat → Option α) (n : Nat) :
    (beginning input n).length ≤ n := by
  induction n generalizing input with
  | zero => exact Nat.le_refl 0
  | succ n ih =>
    cases h : input 0 with
    | none =>
      rw [beginning, h]
      exact Nat.zero_le _
    | some x =>
      rw [beginning, h]
      exact Nat.succ_le_succ (ih _)

/-- An input answers with its first items, and then that it has ended if they are not as many. -/
theorem eq_getElem?_beginning (input : Nat → Option α) {n i : Nat} (hn : i < n)
    (hi : i ≤ (beginning input n).length) : input i = (beginning input n)[i]? := by
  induction n generalizing input i with
  | zero => exact absurd hn (Nat.not_lt_zero i)
  | succ n ih =>
    cases h : input 0 with
    | none =>
      rw [beginning, h] at hi
      rw [beginning, h, Nat.le_zero.mp hi]
      exact h
    | some x =>
      rw [beginning, h] at hi
      rw [beginning, h]
      cases i with
      | zero => exact h
      | succ i =>
        exact ih (fun i => input (i + 1)) (Nat.lt_of_succ_lt_succ hn) (Nat.le_of_succ_le_succ hi)

end Beginning

/-! ## Pipelines that begin by taking items -/

/-- No session reads more than so many items, at whatever point the consumer stops, and it asks the
input no more often: what the input would answer later does not matter. -/
structure ReadsAtMost (n : Nat)
    (session : (Nat → Option α) → (steps : Nat) → List (Happening ω α β)) : Prop where
  reads_le : ∀ input steps, reads (session input steps) ≤ n
  congr : ∀ input other, (∀ i, i < n → input i = other i) →
    ∀ steps, session input steps = session other steps

namespace Transducer

theorem readsAtMost_take_chain (n : Nat) (m : Machine ω α β) :
    ReadsAtMost n fun input steps =>
      ((Op.take n).machine.chain m).session input steps 0 ((Op.take n).machine.chain m).start := by
  have h := (rationed_take (ω := ω) (α := α) n).chain m
  have hstart := chainWithin_take_start n m
  constructor
  · intro input steps
    exact h.reads_session_le input steps 0 hstart
  · intro input other heq steps
    refine h.session_congr steps 0 hstart fun i hi => ?_
    rw [Nat.zero_add]
    exact heq i hi

/-- What stands behind comes to its end if it collects the first items. -/
theorem exists_endsWith_take_compose (n : Nat) {q : Transducer ω α β} {input : Nat → Option α}
    {ys : List β} (h : q.collect (beginning input n) = some ys) :
    ∃ steps, EndsWith ys (((take n).compose q).session input steps) := by
  let t := (take n).compose q
  let items := beginning input n
  have hlimited : ∀ i, i ≤ items.length → limited n input (0 + i) = items[i]? := by
    intro i hi
    rw [Nat.zero_add]
    by_cases hn : i < n
    · exact (if_pos hn).trans (eq_getElem?_beginning input hn hi)
    · have hnone : items[i]? = none := by
        rw [List.getElem?_eq_none_iff]
        exact Nat.le_trans (length_beginning_le input n) (Nat.le_of_not_lt hn)
      exact (if_neg hn).trans hnone.symm
  -- Behind the ration the input is as good as ended.
  have hcongr : ∀ steps, t.session input steps = t.session (limited n input) steps :=
    (readsAtMost_take_chain n q.machine).congr input _ fun i hi => (if_pos hi).symm
  have htake : (take n : Transducer ω α α).collect items = some items := by
    refine (realises_take n items).trans (congrArg some ?_)
    exact List.take_of_length_le (length_beginning_le input n)
  have hcollect : t.collect items = some ys := (collect_compose htake q).trans h
  obtain ⟨ho⟩ := t.orderly
  obtain ⟨steps, hs⟩ := (collectFrom_eq_some_iff.mp hcollect).exists_endsWith_of_heeding ho
    ho.reaches_start (.inr hlimited)
  exact ⟨steps, (hcongr steps).symm ▸ hs⟩

/-- Taking some items first bounds all reading: whatever machine stands behind, also one that goes
on by itself without end, no session reads more than so many items, before or behind its end. And in
a pipeline, however it is grouped, what stands behind comes to its end if it collects the first
items, having put out what it makes of them; so it does if it expands no item without end. -/
theorem take_readsAtMost (n : Nat) :
    (∀ m : Machine ω α β, ReadsAtMost n fun input steps =>
      ((Op.take n).machine.chain m).session input steps 0 ((Op.take n).machine.chain m).start) ∧
    ∀ q t : Transducer ω α β, Regrouped t ((take n).compose q) →
      ReadsAtMost n t.session ∧
      (∀ (input : Nat → Option α) ys, q.collect (beginning input n) = some ys →
        ∃ steps, EndsWith ys (t.session input steps)) ∧
      (q.FiniteBursts → ∀ input : Nat → Option α,
        ∃ ys, q.collect (beginning input n) = some ys) := by
  refine ⟨readsAtMost_take_chain n, fun q t h => ?_⟩
  have hq : ReadsAtMost n ((take n).compose q).session := readsAtMost_take_chain n q.machine
  refine ⟨⟨?_, ?_⟩, ?_, ?_⟩
  · intro input steps
    rw [h.session_eq]
    exact hq.reads_le input steps
  · intro input other heq steps
    rw [h.session_eq, h.session_eq]
    exact hq.congr input other heq steps
  · intro input ys hys
    obtain ⟨steps, hs⟩ := exists_endsWith_take_compose n hys
    exact ⟨steps, (h.session_eq input steps).symm ▸ hs⟩
  · intro hb input
    obtain ⟨ys, -, hys⟩ := hb.exists_collect (beginning input n)
    exact ⟨ys, hys⟩

/-- Summing up what is left of the first items of an input that does not end. -/
theorem take_readsAtMost_sum :
    let sum : Transducer Unit Nat Nat := reduce "sum" (· + ·) 0
    let t : Transducer Unit Nat Nat := ((take 3).compose dedupe).compose sum
    Regrouped t ((take 3).compose (dedupe.compose sum)) ∧ ReadsAtMost 3 t.session ∧
      ∃ steps, EndsWith [1] (t.session (fun i => some (i / 2)) steps) := by
  intro sum t
  have hgroup : Regrouped t ((take 3).compose (dedupe.compose sum)) := .assoc _ _ _
  obtain ⟨hreads, hcollects, -⟩ := (take_readsAtMost 3).2 _ t hgroup
  refine ⟨hgroup, hreads, hcollects _ _ ?_⟩
  rw [beginning_unbounded]
  exact collect_of_reference _ (by decide)

/-- A machine that answers with its first item over and over does not read a second one. -/
example :
    let repeating : Machine Unit Nat Nat :=
      { State := Option Nat
        start := ⟨[.ready], .ask none⟩
        feed
          | none, some x => ⟨[], .idle (some x)⟩
          | none, none => ⟨[.answer none], .closed⟩
          | some x, _ => ⟨[.answer (some x)], .idle (some x)⟩ }
    let m := (Op.take 2).machine.chain repeating
    m.session (fun i => some (i + 5)) 7 0 m.start =
      [.applied, .read 5, .output 5, .output 5] := by
  decide

end Transducer
end ParseFlow.Pipeline
