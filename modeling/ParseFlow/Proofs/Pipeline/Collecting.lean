import ParseFlow.Pipeline.Run

/-!
# What a run puts out

The items that a machine puts out from a turn on are collected up to the end that it reports. Every
turn splits: what its events answer with comes first, and what is collected from then on comes after
it, unless the events already report the end. A run that comes to its end is a finite derivation,
`Collects`; where there is none nothing is collected. What a machine makes of a list is found by
saying, for every state in which it asks, what it makes of all items that are left; each step has to
bear this out.
-/
namespace ParseFlow.Pipeline

variable {ω α β γ σ : Type}

/-! ## Events -/

/-- Whether the events report the end. -/
def Ends (events : List (Event ω β)) : Prop := .answer none ∈ events

/-- What comes of events and of what is collected behind them. -/
def passed (events : List (Event ω β)) (later : Option (List β)) : Option (List β) :=
  if reportsEnd events then some (passing events []) else later.map (passing events)

section Passing

variable {events others : List (Event ω β)}

theorem reportsEnd_iff : reportsEnd events = true ↔ Ends events := by
  rw [reportsEnd, List.any_eq_true, Ends]
  constructor
  · rintro ⟨_ | _ | _ | y, he, h⟩
    · cases h
    · cases h
    · exact he
    · cases h
  · exact fun h => ⟨_, h, rfl⟩

theorem passing_append (events others : List (Event ω β)) (later : List β) :
    passing (events ++ others) later = passing events (passing others later) := by
  induction events with
  | nil => rfl
  | cons e events ih =>
    cases e with
    | note w => exact ih
    | ready => exact ih
    | answer out =>
      cases out with
      | none => rfl
      | some y =>
        show y :: passing (events ++ others) later = _
        rw [ih]
        rfl

/-- Nothing passes behind the end. -/
theorem passing_of_ends (h : Ends events) (later last : List β) :
    passing events later = passing events last := by
  obtain ⟨before, after, rfl⟩ := List.append_of_mem h
  rw [passing_append, passing_append]
  rfl

theorem passing_answers (items later : List β) :
    passing (items.map fun y => (.answer (some y) : Event ω β)) later = items ++ later := by
  induction items with
  | nil => rfl
  | cons y items ih =>
    show y :: passing (items.map fun y => .answer (some y)) later = _
    rw [ih]
    rfl

theorem ends_note {w : ω} : Ends (.note w :: events) ↔ Ends events := by
  simp [Ends]

theorem ends_ready : Ends (.ready :: events) ↔ Ends events := by
  simp [Ends]

theorem ends_some {y : β} : Ends (.answer (some y) :: events) ↔ Ends events := by
  simp [Ends]

theorem Ends.append_left (h : Ends events) : Ends (events ++ others) :=
  List.mem_append_left others h

theorem Ends.append_right (h : Ends others) : Ends (events ++ others) :=
  List.mem_append_right events h

theorem not_ends_append (h : ¬ Ends events) (ho : ¬ Ends others) : ¬ Ends (events ++ others) :=
  fun hmem => (List.mem_append.mp hmem).elim h ho

theorem not_ends_answers (items : List β) :
    ¬ Ends (items.map fun y => (.answer (some y) : Event ω β)) := by
  intro h
  obtain ⟨y, -, hy⟩ := List.mem_map.mp h
  cases hy

theorem passed_of_ends (h : Ends events) (later : Option (List β)) :
    passed events later = some (passing events []) :=
  if_pos (reportsEnd_iff.mpr h)

theorem passed_of_not_ends (h : ¬ Ends events) (later : Option (List β)) :
    passed events later = later.map (passing events) :=
  if_neg (mt reportsEnd_iff.mp h)

theorem passed_nil (later : Option (List β)) : passed ([] : List (Event ω β)) later = later :=
  (passed_of_not_ends List.not_mem_nil later).trans Option.map_id'

theorem passed_some (events : List (Event ω β)) (later : List β) :
    passed events (some later) = some (passing events later) := by
  by_cases h : Ends events
  · rw [passed_of_ends h, passing_of_ends h]
  · exact passed_of_not_ends h _

theorem passed_append (events others : List (Event ω β)) (later : Option (List β)) :
    passed (events ++ others) later = passed events (passed others later) := by
  by_cases ho : Ends others
  · rw [passed_of_ends ho.append_right, passed_of_ends ho, passed_some, passing_append]
  · by_cases he : Ends events
    · rw [passed_of_ends he.append_left, passed_of_ends he, passing_append]
      exact congrArg some (passing_of_ends he _ _)
    · rw [passed_of_not_ends (not_ends_append he ho), passed_of_not_ends he,
        passed_of_not_ends ho, Option.map_map]
      exact congrArg (later.map ·) (funext fun ys => passing_append events others ys)

theorem passed_answers (items : List β) (later : Option (List β)) :
    passed (items.map fun y => (.answer (some y) : Event ω β)) later = later.map (items ++ ·) := by
  rw [passed_of_not_ends (not_ends_answers items)]
  exact congrArg (later.map ·) (funext (passing_answers items))

end Passing

namespace Turn

/-- The same turn with other events before its own. -/
def behind (events : List (Event ω β)) (turn : Turn ω β σ) : Turn ω β σ :=
  ⟨events ++ turn.events, turn.next⟩

end Turn

namespace Machine

variable (m : Machine ω α β)

/-! ## Collecting turn by turn -/

section Pull

variable {next : Next m.State}

theorem pull_asking (h : next.asks = true) (input : Items α) :
    m.pull next input = (m.goOn next input.head?, input.tail) := if_pos h

theorem pull_resting (h : next.asks = false) (input : Items α) :
    m.pull next input = (m.goOn next none, input) := by
  rw [pull, h]
  rfl

end Pull

theorem collectFrom_eq (turn : Turn ω β m.State) (input : Items α) :
    m.collectFrom turn input = passed turn.events
      (m.collectFrom (m.pull turn.next input).1 (m.pull turn.next input).2) := by
  rw [collectFrom, passed]
  split <;> rfl

/-- What the next pull leads to is collected when there are no events to be told first. -/
theorem collectFrom_nil (next : Next m.State) (input : Items α) :
    m.collectFrom ⟨[], next⟩ input =
      m.collectFrom (m.pull next input).1 (m.pull next input).2 := by
  rw [collectFrom_eq, passed_nil]

/-- What is collected from a turn on splits into what its events answer with and what comes
later. -/
theorem collectFrom_split (turn : Turn ω β m.State) (input : Items α) :
    m.collectFrom turn input = passed turn.events (m.collectFrom ⟨[], turn.next⟩ input) := by
  rw [collectFrom_eq, collectFrom_nil]

theorem collectFrom_behind (events : List (Event ω β)) (turn : Turn ω β m.State)
    (input : Items α) :
    m.collectFrom (turn.behind events) input = passed events (m.collectFrom turn input) := by
  rw [collectFrom_split, m.collectFrom_split turn, ← passed_append]
  rfl

/-- Once the end is reported the input does not matter. -/
theorem collectFrom_of_ends {turn : Turn ω β m.State} (h : Ends turn.events) (input : Items α) :
    m.collectFrom turn input = some (passing turn.events []) := by
  rw [collectFrom_eq, passed_of_ends h]

theorem collectFrom_ask_nil (s : m.State) :
    m.collectFrom ⟨[], .ask s⟩ (.listed []) = m.collectFrom (m.feed s none) (.listed []) :=
  m.collectFrom_nil (.ask s) _

theorem collectFrom_ask_cons (s : m.State) (x : α) (items : List α) :
    m.collectFrom ⟨[], .ask s⟩ (.listed (x :: items)) =
      m.collectFrom (m.feed s (some x)) (.listed items) :=
  m.collectFrom_nil (.ask s) _

/-! ## Runs that come to their end -/

/-- The machine comes to its end from a turn on, and puts out these items before. -/
inductive Collects : Turn ω β m.State → Items α → List β → Prop
  | ends {turn : Turn ω β m.State} {input : Items α} (h : Ends turn.events) :
    Collects turn input (passing turn.events [])
  | later {turn : Turn ω β m.State} {input : Items α} {ys : List β}
      (h : Collects (m.pull turn.next input).1 (m.pull turn.next input).2 ys) :
    Collects turn input (passing turn.events ys)

variable {m}

theorem collectFrom_eq_some_iff {turn : Turn ω β m.State} {input : Items α} {ys : List β} :
    m.collectFrom turn input = some ys ↔ m.Collects turn input ys := by
  constructor
  · refine collectFrom.partial_correctness m (fun turn input ys => m.Collects turn input ys) ?_
      turn input ys
    intro collect ih turn input ys h
    split at h
    · next hends =>
      obtain rfl := Option.some.inj h
      exact .ends (reportsEnd_iff.mp hends)
    · obtain ⟨later, hlater, rfl⟩ := Option.map_eq_some_iff.mp h
      exact .later (ih _ _ later hlater)
  · intro h
    induction h with
    | ends h => exact m.collectFrom_of_ends h _
    | later _ ih => rw [collectFrom_eq, ih, passed_some]

/-- Runs that show the same events, turn for turn, collect the same. -/
theorem collectFrom_congr {n : Machine ω γ β}
    {related : Turn ω β m.State → Items α → Turn ω β n.State → Items γ → Prop}
    (hevents : ∀ turn input other input', related turn input other input' →
      turn.events = other.events)
    (hpull : ∀ turn input other input', related turn input other input' →
      related (m.pull turn.next input).1 (m.pull turn.next input).2
        (n.pull other.next input').1 (n.pull other.next input').2)
    {turn : Turn ω β m.State} {input : Items α} {other : Turn ω β n.State} {input' : Items γ}
    (h : related turn input other input') :
    m.collectFrom turn input = n.collectFrom other input' := by
  have hleft : ∀ {turn input ys}, m.Collects turn input ys → ∀ {other input'},
      related turn input other input' → n.Collects other input' ys := by
    intro turn input ys hcollects
    induction hcollects with
    | ends hends =>
      intro other input' h
      have he := hevents _ _ _ _ h
      rw [he] at hends ⊢
      exact .ends hends
    | later _ ih =>
      intro other input' h
      rw [hevents _ _ _ _ h]
      exact .later (ih (hpull _ _ _ _ h))
  have hright : ∀ {other input' ys}, n.Collects other input' ys → ∀ {turn input},
      related turn input other input' → m.Collects turn input ys := by
    intro other input' ys hcollects
    induction hcollects with
    | ends hends =>
      intro turn input h
      have he := hevents _ _ _ _ h
      rw [← he] at hends ⊢
      exact .ends hends
    | later _ ih =>
      intro turn input h
      rw [← hevents _ _ _ _ h]
      exact .later (ih (hpull _ _ _ _ h))
  refine Option.ext fun ys => ?_
  rw [collectFrom_eq_some_iff, collectFrom_eq_some_iff]
  exact ⟨fun hc => hleft hc h, fun hc => hright hc h⟩

end Machine

/-! ## What a machine makes of a list -/

/-- What is made of the items that are left if a machine that asks makes `made` of them. -/
def Next.later (made : σ → List α → List β) : Next σ → List α → List β
  | .ask s, items => made s items
  | .idle _, _ => []
  | .closed, _ => []

namespace Turn

/-- The end has been reported, or the next pull reads the input in a state of the given kind. -/
def Goes (live : σ → Prop) (turn : Turn ω β σ) : Prop :=
  Ends turn.events ∨ ∃ s, turn.next = .ask s ∧ live s

/-- The turn goes on as it should, and with the items that are left comes to `result`. -/
def Makes (live : σ → Prop) (made : σ → List α → List β) (items : List α) (result : List β)
    (turn : Turn ω β σ) : Prop :=
  turn.Goes live ∧ passing turn.events (turn.next.later made items) = result

/-- The turn reports the end, and puts out `result` before. -/
def Finishes (result : List β) (turn : Turn ω β σ) : Prop :=
  Ends turn.events ∧ passing turn.events [] = result

end Turn

namespace Machine

/-- From every state in which the machine asks it puts out `made` of the items that are left: so it
does at the end of the input, and with an item it does if it does with those after it. -/
structure Follows (m : Machine ω α β) (live : m.State → Prop) (made : m.State → List α → List β)
    (f : List α → List β) : Prop where
  start_makes : ∀ items, m.start.Makes live made items (f items)
  feed_some : ∀ s x items, live s → (m.feed s (some x)).Makes live made items (made s (x :: items))
  feed_none : ∀ s, live s → (m.feed s none).Finishes (made s [])

/-- The machine comes to the end of every list, and puts out the values of `f`. -/
def Realises (m : Machine ω α β) (f : List α → List β) : Prop :=
  ∀ items : List α, m.collectFrom m.start (.listed items) = some (f items)

variable {m : Machine ω α β} {live : m.State → Prop} {made : m.State → List α → List β}
  {f : List α → List β}

theorem Follows.collectFrom_ask (h : m.Follows live made f) {s : m.State} (hs : live s)
    (items : List α) : m.collectFrom ⟨[], .ask s⟩ (.listed items) = some (made s items) := by
  induction items generalizing s with
  | nil =>
    obtain ⟨hends, hmade⟩ := h.feed_none s hs
    rw [collectFrom_ask_nil, collectFrom_of_ends m hends, hmade]
  | cons x items ih =>
    obtain ⟨hgoes, hmade⟩ := h.feed_some s x items hs
    rw [collectFrom_ask_cons, collectFrom_split, ← hmade]
    rcases hgoes with hends | ⟨t, ht, hlive⟩
    · rw [passed_of_ends hends, passing_of_ends hends]
    · rw [ht, ih hlive, passed_some]
      rfl

theorem Follows.realises (h : m.Follows live made f) : m.Realises f := by
  intro items
  obtain ⟨hgoes, hmade⟩ := h.start_makes items
  rw [collectFrom_split, ← hmade]
  rcases hgoes with hends | ⟨s, hs, hlive⟩
  · rw [passed_of_ends hends, passing_of_ends hends]
  · rw [hs, h.collectFrom_ask hlive, passed_some]
    rfl

end Machine
end ParseFlow.Pipeline
