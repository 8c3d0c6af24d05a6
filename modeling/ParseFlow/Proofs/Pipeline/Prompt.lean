import ParseFlow.Proofs.Pipeline.Pace

/-!
# Prompt operations

An operation is prompt if it holds nothing back: what it makes of an item it puts out before it
reads the next, and it puts out nothing at the end. Of a prompt machine that computes a list
function no more has to be known than the shape of its turns; what it puts out in each of them is
then what the function adds, so that the machine keeps to the course of its function.
-/
namespace ParseFlow.Pipeline

variable {ω α β σ : Type}

/-- Nothing is held back; windows overlap or touch, and a short last one does not count. -/
def Op.Prompt : Op ω α β → Prop
  | windowed window _ _ => window.step ≤ window.size ∧ window.remainder = false
  | dedupe => False
  | sort _ => False
  | sortBy _ _ => False
  | reduce _ _ _ _ => False
  | _ => True

/-- All operations are prompt. -/
def Transducer.Prompt {α β : Type} : Transducer ω α β → Prop
  | identity => True
  | op operation => operation.Prompt
  | compose first second => first.Prompt ∧ second.Prompt

/-- The turn leaves the notes, puts out some items, and then reports the end or asks. -/
def Turn.Hands (stands : σ → Prop) (notes : List ω) (isOver : Bool) (turn : Turn ω β σ) : Prop :=
  ∃ outs, turn.Shows stands (Effect.of notes outs) isOver

namespace Machine

/-- In each turn the machine leaves the notes of the item, puts out some items, and then reports the
end or asks again; told that there are no more items it reports the end. -/
structure Steps (m : Machine ω α β) (isOver : List α → Bool) (noted : α → List ω)
    (stands : List α → m.State → Prop) : Prop where
  start : ∃ events, m.start.events = .ready :: events ∧
    (⟨events, m.start.next⟩ : Turn ω β m.State).Hands (stands []) [] (isOver [])
  feed_some : ∀ before s x, isOver before = false → stands before s →
    (m.feed s (some x)).Hands (stands (before ++ [x])) (noted x) (isOver (before ++ [x]))
  feed_none : ∀ before s, stands before s → ∃ after, (m.feed s none).events = .answer none :: after
  over_concat : ∀ before x, isOver before = true → isOver (before ++ [x]) = true

variable {m : Machine ω α β} {isOver : List α → Bool} {noted : α → List ω}
  {stands : List α → m.State → Prop} {f : List α → List β}

theorem passing_effects (effects : List (Effect ω β)) (events : List (Event ω β))
    (later : List β) :
    passing (effects.map Effect.event ++ events) later = put effects ++ passing events later := by
  induction effects with
  | nil => rfl
  | cons e effects ih =>
    cases e with
    | note w => exact ih
    | output y => exact congrArg (List.cons y) ih

theorem not_ends_effects (effects : List (Effect ω β)) : ¬ Ends (effects.map Effect.event) := by
  intro h
  obtain ⟨e, -, he⟩ := List.mem_map.mp h
  cases e <;> cases he

/-- Effects that are told put out the items among them before all that comes later. -/
theorem passed_effects (notes : List ω) (outs : List β) (later : Option (List β)) :
    passed ((Effect.of notes outs).map Effect.event) later = later.map (outs ++ ·) := by
  rw [passed_of_not_ends (not_ends_effects _)]
  refine congrArg (later.map ·) (funext fun ys => ?_)
  have hp := passing_effects (Effect.of notes outs) [] ys
  rwa [List.append_nil, put_of] at hp

/-- The function has made `base` of the items before, and of others it adds what comes of them from
the turn on. -/
def Adds (m : Machine ω α β) (f : List α → List β) (before : List α) (base : List β)
    (turn : Turn ω β m.State) : Prop :=
  ∀ items : List α, (m.collectFrom turn items).map (base ++ ·) = some (f (before ++ items))

/-- The machine stands after these items, and what it will put out the function adds. -/
def StandsFor (f : List α → List β) (stands : List α → m.State → Prop) (before : List α)
    (s : m.State) : Prop :=
  stands before s ∧ m.Adds f before (f before) ⟨[], .ask s⟩

/-- A turn from which everything comes that the function makes of these items and others: what it
shows is what is still missing for these items. -/
theorem Steps.shown (h : m.Steps isOver noted stands) {turn : Turn ω β m.State} {before : List α}
    {base outs : List β} {notes : List ω} (hf : m.Adds f before base turn)
    (hs : turn.Shows (stands before) (Effect.of notes outs) (isOver before)) :
    f before = base ++ outs ∧
      turn.Shows (StandsFor f stands before) (Effect.of notes outs) (isOver before) ∧
      (isOver before = true → ∀ items, f (before ++ items) = f before) := by
  cases ho : isOver before with
  | true =>
    obtain ⟨after, he⟩ := hs.ended ho
    have hends : Ends turn.events := by
      rw [he]
      exact List.mem_append_right _ List.mem_cons_self
    have hall : ∀ items, f (before ++ items) = base ++ outs := by
      intro items
      have hadds := hf items
      rw [collectFrom_of_ends m hends, he, passing_effects, put_of, Option.map_some] at hadds
      exact (Option.some.inj hadds).symm.trans (congrArg (base ++ ·) (List.append_nil outs))
    have hmade : f before = base ++ outs := by
      rw [← hall [], List.append_nil]
    rw [ho] at hs
    exact ⟨hmade, .of_ended (hs.ended rfl), fun _ items => (hall items).trans hmade.symm⟩
  | false =>
    obtain ⟨he, s, hnext, hstands⟩ := hs.asks ho
    have hall : m.Adds f before (base ++ outs) ⟨[], .ask s⟩ := by
      intro items
      have hadds := hf items
      rw [collectFrom_split, he, hnext, passed_effects, Option.map_map] at hadds
      rw [← hadds]
      exact congrArg (fun g => Option.map g _) (funext fun ys => List.append_assoc base outs ys)
    have hmade : f before = base ++ outs := by
      obtain ⟨after, hnone⟩ := h.feed_none before s hstands
      have hends : Ends (m.feed s none).events := by
        rw [hnone]
        exact List.mem_cons_self
      have hnil := hall []
      rw [List.append_nil, collectFrom_ask_nil, collectFrom_of_ends m hends, hnone] at hnil
      exact (Option.some.inj hnil).symm.trans (List.append_nil _)
    refine ⟨hmade, .of_asks he ⟨s, hnext, hstands, ?_⟩, Bool.false_ne_true.elim⟩
    rw [hmade]
    exact hall

section Of

variable (h : m.Steps isOver noted stands) (hr : m.Realises f)

include h hr

/-- What the machine shows at its start is what the function makes of no items. -/
theorem Steps.shown_start :
    ∃ events, m.start.events = .ready :: events ∧
      (⟨events, m.start.next⟩ : Turn ω β m.State).Shows (StandsFor f stands [])
        (Effect.of [] (f [])) (isOver []) ∧
      (isOver [] = true → ∀ items, f ([] ++ items) = f []) := by
  obtain ⟨events, he, outs, hs⟩ := h.start
  have hf : m.Adds f [] [] ⟨events, m.start.next⟩ := by
    intro items
    have hstart : m.start = Turn.behind [.ready] ⟨events, m.start.next⟩ :=
      congrArg (Turn.mk · m.start.next) he
    have hall := hr items
    rw [hstart, collectFrom_behind, passed_of_not_ends (by simp [Ends])] at hall
    exact hall
  obtain ⟨hmade, hshows, hover⟩ := h.shown hf hs
  rw [List.nil_append] at hmade
  rw [← hmade] at hshows
  exact ⟨events, he, hshows, hover⟩

omit hr in
/-- What the machine shows of one more item is what the function adds for it. -/
theorem Steps.shown_some {before : List α} {s : m.State} (x : α) (ho : isOver before = false)
    (hs : StandsFor f stands before s) :
    f (before ++ [x]) =
        f before ++ put (Effect.of (noted x) ((f (before ++ [x])).drop (f before).length)) ∧
      (m.feed s (some x)).Shows (StandsFor f stands (before ++ [x]))
        (Effect.of (noted x) ((f (before ++ [x])).drop (f before).length))
        (isOver (before ++ [x])) ∧
      (isOver (before ++ [x]) = true →
        ∀ items, f (before ++ [x] ++ items) = f (before ++ [x])) := by
  obtain ⟨hstands, hrest⟩ := hs
  obtain ⟨outs, hshows⟩ := h.feed_some before s x ho hstands
  have hf : m.Adds f (before ++ [x]) (f before) (m.feed s (some x)) := by
    intro items
    have hall := hrest (x :: items)
    rw [collectFrom_ask_cons, List.append_cons] at hall
    exact hall
  obtain ⟨hmade, hshows, hover⟩ := h.shown hf hshows
  have hadds : (f (before ++ [x])).drop (f before).length = outs := by
    rw [hmade, List.drop_left]
  rw [hadds, put_of]
  exact ⟨hmade, hshows, hover⟩

/-- After any items the run is over and the function adds nothing, or the machine asks. -/
theorem Steps.reached (before : List α) :
    (isOver before = true ∧ ∀ items, f (before ++ items) = f before) ∨
      (isOver before = false ∧ ∃ s, StandsFor f stands before s) := by
  induction before using List.reverseRecOn with
  | nil =>
    obtain ⟨events, -, hshows, hover⟩ := h.shown_start hr
    cases ho : isOver [] with
    | true => exact .inl ⟨rfl, hover ho⟩
    | false =>
      obtain ⟨-, s, -, hs⟩ := hshows.asks ho
      exact .inr ⟨rfl, s, hs⟩
  | append_singleton before x ih =>
    rcases ih with ⟨ho, hall⟩ | ⟨ho, s, hs⟩
    · refine .inl ⟨h.over_concat before x ho, fun items => ?_⟩
      rw [hall [x], ← List.append_cons, hall]
    · obtain ⟨-, hshows, hover⟩ := h.shown_some x ho hs
      cases ho : isOver (before ++ [x]) with
      | true => exact .inl ⟨rfl, hover ho⟩
      | false =>
        obtain ⟨-, t, -, ht⟩ := hshows.asks ho
        exact .inr ⟨rfl, t, ht⟩

theorem Steps.sound : (Course.of f isOver noted).Sound := by
  constructor
  · exact (put_of [] (f [])).symm
  · intro before x ho
    rcases h.reached hr before with ⟨ho', -⟩ | ⟨-, s, hs⟩
    · exact absurd (ho'.symm.trans ho) nofun
    · exact (h.shown_some x ho hs).1
  · intro before x ho
    rcases h.reached hr before with ⟨-, hall⟩ | ⟨ho', -⟩
    · exact hall [x]
    · exact absurd (ho'.symm.trans ho) nofun
  · exact h.over_concat

/-- A machine that computes a function in prompt steps keeps to the course of the function. -/
theorem Steps.keeps : m.Keeps (Course.of f isOver noted) (StandsFor f stands) := by
  constructor
  · obtain ⟨events, he, hshows, -⟩ := h.shown_start hr
    exact ⟨events, he, hshows⟩
  · intro before s x ho hs
    exact (h.shown_some x ho hs).2.1
  · intro before s hs
    exact h.feed_none before s hs.1

end Of

end Machine

/-! ## Operations -/

open Machine

section Turns

variable {stands : σ → Prop} {s : σ}

theorem hands_asking (notes : List ω) (outs : List β) (h : stands s) :
    (⟨(Effect.of notes outs).map Effect.event, .ask s⟩ : Turn ω β σ).Hands stands notes false :=
  ⟨outs, .of_asks rfl ⟨s, rfl, h⟩⟩

theorem hands_answerThenAsk (y : β) (h : stands s) :
    (answerThenAsk y s : Turn ω β σ).Hands stands [] false := hands_asking [] [y] h

theorem hands_askOn (h : stands s) : (askOn s : Turn ω β σ).Hands stands [] false :=
  hands_asking [] [] h

theorem event_outputs (outs : List β) :
    (Effect.of [] outs).map Effect.event =
      outs.map fun y => (.answer (some y) : Event ω β) := by
  rw [Effect.of, List.map_nil, List.nil_append, List.map_map]
  rfl

theorem hands_lastly (outs : List β) : (lastly outs : Turn ω β σ).Hands stands [] true := by
  refine ⟨outs, .of_ended ⟨[], ?_⟩⟩
  rw [lastly, event_outputs]

theorem hands_ite {p : Prop} [Decidable p] {notes : List ω} {isOver : Bool}
    {turn other : Turn ω β σ} (ht : p → turn.Hands stands notes isOver)
    (ho : ¬ p → other.Hands stands notes isOver) :
    (if p then turn else other).Hands stands notes isOver :=
  iteInduction (motive := Turn.Hands stands notes isOver) ht ho

end Turns

section Steady

variable {initial : σ} {feed : σ → Option α → Turn ω β σ} {noted : α → List ω}

/-- A machine that is ready at once, and does not end before its input. -/
theorem steps_steady (stands : σ → Prop) (hi : stands initial)
    (hsome : ∀ s x, stands s → (feed s (some x)).Hands stands (noted x) false)
    (hnone : ∀ s, stands s → ∃ after, (feed s none).events = .answer none :: after) :
    (steady initial feed).Steps (fun _ => false) noted fun _ => stands := by
  constructor
  · exact ⟨[], rfl, hands_askOn hi⟩
  · exact fun _ s x _ hs => hsome s x hs
  · exact fun _ s hs => hnone s hs
  · exact fun _ _ => id

/-- The same where nothing has to be known of the state. -/
theorem steps_stateless (hsome : ∀ s x, (feed s (some x)).Hands (fun _ => True) (noted x) false)
    (hnone : ∀ s, ∃ after, (feed s none).events = .answer none :: after) :
    (steady initial feed).Steps (fun _ => false) noted fun _ _ => True :=
  steps_steady (fun _ => True) trivial (fun s x _ => hsome s x) fun s _ => hnone s

end Steady

theorem steps_take (count : Nat) :
    (Op.take count : Op ω α α).machine.Steps (Op.take count : Op ω α α).isOver (fun _ => [])
      fun before (left : Nat) => before.length + left = count := by
  constructor
  · by_cases h : count = 0
    · have ho : (Op.take count : Op ω α α).isOver [] = true := decide_eq_true (Nat.le_of_eq h)
      rw [ho]
      exact ⟨[.answer none], congrArg Turn.events (if_pos h), [], .of_ended ⟨[], rfl⟩⟩
    · have ho : (Op.take count : Op ω α α).isOver [] = false :=
        decide_eq_false (Nat.not_le_of_gt (Nat.pos_of_ne_zero h))
      rw [ho]
      refine ⟨[], congrArg Turn.events (if_neg h), [], .of_asks rfl ⟨count, ?_, ?_⟩⟩
      · exact congrArg Turn.next (if_neg h)
      · exact Nat.zero_add count
  · intro before (left : Nat) x ho (hs : before.length + left = count)
    have hlt : ¬ count ≤ before.length := of_decide_eq_false ho
    have hlen : (before ++ [x]).length = before.length + 1 := List.length_append
    show Turn.Hands _ [] _ (if left ≤ 1 then lastly [x] else answerThenAsk x (left - 1))
    by_cases h : left ≤ 1
    · have hover : (Op.take count : Op ω α α).isOver (before ++ [x]) = true :=
        decide_eq_true (by omega)
      rw [if_pos h, hover]
      exact hands_lastly [x]
    · have hover : (Op.take count : Op ω α α).isOver (before ++ [x]) = false :=
        decide_eq_false (by omega)
      rw [if_neg h, hover]
      exact hands_answerThenAsk x (by omega)
  · intro before (left : Nat) _
    show ∃ after, (if left ≤ 1 then lastly [] else endThenAsk (left - 1) : Turn ω α Nat).events = _
    by_cases h : left ≤ 1
    · rw [if_pos h]
      exact ⟨[], rfl⟩
    · rw [if_neg h]
      exact ⟨[], rfl⟩
  · intro before x ho
    have hle : count ≤ before.length := of_decide_eq_true ho
    refine decide_eq_true ?_
    rw [List.length_append]
    omega

theorem steps_takeWhile (label : Label) (keep : α → Bool) :
    (Op.takeWhile label keep : Op ω α α).machine.Steps (Op.takeWhile label keep : Op ω α α).isOver
      (fun _ => []) fun _ _ => True := by
  have hconcat : ∀ before x, (Op.takeWhile label keep : Op ω α α).isOver (before ++ [x]) =
      ((Op.takeWhile label keep : Op ω α α).isOver before || !keep x) := by
    intro before x
    show (before ++ [x]).any _ = _
    rw [List.any_append, List.any_cons, List.any_nil, Bool.or_false]
    rfl
  constructor
  · exact ⟨[], rfl, hands_askOn trivial⟩
  · intro before s x ho _
    rw [hconcat, ho, Bool.false_or]
    show Turn.Hands _ [] _ (if keep x then answerThenAsk x () else lastly [])
    cases hx : keep x with
    | true => exact hands_answerThenAsk x trivial
    | false => exact hands_lastly []
  · exact fun _ _ _ => ⟨[], rfl⟩
  · intro before x ho
    rw [hconcat, ho, Bool.true_or]

/-- One more index reaches one more member, or none. -/
theorem Sequence.members_succ (partner : Sequence β) (n : Nat) :
    partner.members (List.range (n + 1)) =
      partner.members (List.range n) ++ (partner.get n).toList := by
  rw [members, List.range_succ, List.filterMap_append]
  rfl

theorem steps_zip (partner : Sequence β) (text : String) :
    (Op.zip partner text : Op ω α (α × β)).machine.Steps
      (Op.zip partner text : Op ω α (α × β)).isOver (fun _ => [])
      fun before (i : Nat) => i = before.length := by
  have hover : ∀ (before : List α) x,
      (Op.zip partner text : Op ω α (α × β)).isOver (before ++ [x]) =
        decide ((partner.members (List.range before.length)).length +
          (partner.get before.length).toList.length < before.length + 1) := by
    intro before x
    have hm := partner.members_succ before.length
    have hlen : (before ++ [x]).length = before.length + 1 := List.length_append
    rw [Op.isOver, hlen, hm, List.length_append]
  constructor
  · exact ⟨[], rfl, hands_askOn rfl⟩
  · rintro before (i : Nat) x ho (rfl : i = before.length)
    have hlen : (before ++ [x]).length = before.length + 1 := List.length_append
    have hfull : ¬ (partner.members (List.range before.length)).length < before.length :=
      of_decide_eq_false ho
    have hle : (partner.members (List.range before.length)).length ≤ before.length :=
      (List.length_filterMap_le ..).trans_eq List.length_range
    rw [hover]
    cases hy : partner.get before.length with
    | some y =>
      have hfeed : (Op.zip partner text : Op ω α (α × β)).machine.feed before.length (some x) =
          answerThenAsk (x, y) (before.length + 1) := by
        simp only [Op.machine, steady, hy]
      rw [decide_eq_false (by simpa using hfull), hfeed]
      exact hands_answerThenAsk (x, y) hlen.symm
    | none =>
      have hfeed : (Op.zip partner text : Op ω α (α × β)).machine.feed before.length (some x) =
          endThenAsk before.length := by
        simp only [Op.machine, steady, hy]
      rw [decide_eq_true (by simpa using Nat.lt_succ_of_le hle), hfeed]
      exact ⟨[], .of_ended ⟨[], rfl⟩⟩
  · exact fun _ _ _ => ⟨[], rfl⟩
  · intro before x ho
    have hlt : (partner.members (List.range before.length)).length < before.length :=
      of_decide_eq_true ho
    have hone : (partner.get before.length).toList.length ≤ 1 := by
      cases partner.get before.length <;> simp
    rw [hover]
    exact decide_eq_true (by omega)

theorem steps_scan (label : Label) (f : β → α → β) (seed : β) (text : String) :
    (Op.scan label f seed text : Op ω α β).machine.Steps (fun _ => false) (fun _ => [])
      fun _ _ => True := by
  constructor
  · exact ⟨[.answer (some seed)], rfl, [seed], .of_asks rfl ⟨seed, rfl, trivial⟩⟩
  · exact fun _ acc x _ _ => hands_answerThenAsk (f acc x) trivial
  · exact fun _ _ _ => ⟨[], rfl⟩
  · exact fun _ _ => id

theorem steps_windowed {window : Window} (hs : 0 < window.size) (ht : 0 < window.step)
    (hstep : window.step ≤ window.size) (hrest : window.remainder = false) :
    (Op.windowed window hs ht : Op ω α (List α)).machine.Steps (fun _ => false) (fun _ => [])
      fun _ (s : WindowState α) => ∃ buffer, s = .filling buffer := by
  refine steps_steady (fun s : WindowState α => ∃ buffer, s = .filling buffer) ⟨[], rfl⟩ ?_ ?_
  · rintro _ x ⟨buffer, rfl⟩
    refine hands_ite (fun _ => hands_askOn ⟨_, rfl⟩) fun _ => ?_
    rw [if_pos hstep]
    exact hands_answerThenAsk _ ⟨_, rfl⟩
  · rintro _ ⟨buffer, rfl⟩
    rw [feedWindow, hrest]
    exact ⟨[], rfl⟩

theorem steps_flatMap (f : α → Items β) (label : Label) (h : ∀ x, ∃ ys, f x = .listed ys) :
    (Op.flatMap label f : Op ω α β).machine.Steps (fun _ => false) (fun _ => [])
      fun _ (s : Option (Nat → β)) => s = none := by
  refine steps_steady (fun s : Option (Nat → β) => s = none) rfl ?_ ?_
  · rintro _ x rfl
    obtain ⟨ys, hys⟩ := h x
    rw [feedFlatMap_listed hys]
    exact ⟨ys, .of_asks (event_outputs ys).symm ⟨none, rfl, rfl⟩⟩
  · rintro _ rfl
    exact ⟨[], rfl⟩

/-- The machine of a prompt operation takes prompt steps, if no item expands without end. -/
theorem Op.steps (op : Op ω α β) (h : op.Prompt) (hb : op.FiniteBursts) :
    ∃ stands, op.machine.Steps op.isOver op.noted stands := by
  cases op with
  | map label f =>
    exact ⟨_, steps_stateless (fun _ x => hands_answerThenAsk (f x) trivial) fun _ => ⟨[], rfl⟩⟩
  | filter label keep =>
    refine ⟨_, steps_stateless (fun _ x => hands_ite (fun _ => ?_) fun _ => ?_) fun _ => ⟨[], rfl⟩⟩
    · exact hands_answerThenAsk x trivial
    · exact hands_askOn trivial
  | flatMap label f => exact ⟨_, steps_flatMap f label hb⟩
  | take count => exact ⟨_, steps_take count⟩
  | drop count =>
    refine ⟨_, steps_stateless (fun left x => ?_) fun left => ?_⟩
    · cases left with
      | zero => exact hands_answerThenAsk x trivial
      | succ left => exact hands_askOn trivial
    · cases left <;> exact ⟨[], rfl⟩
  | takeWhile label keep => exact ⟨_, steps_takeWhile label keep⟩
  | dropWhile label skip =>
    refine ⟨_, steps_stateless (fun _ x => hands_ite (fun _ => ?_) fun _ => ?_) fun _ => ⟨[], rfl⟩⟩
    · exact hands_askOn trivial
    · exact hands_answerThenAsk x trivial
  | windowed window hs ht => exact ⟨_, steps_windowed hs ht h.1 h.2⟩
  | dedupe => exact h.elim
  | unique =>
    refine ⟨_, steps_stateless (fun _ x => hands_ite (fun _ => ?_) fun _ => ?_) fun _ => ⟨[], rfl⟩⟩
    · exact hands_askOn trivial
    · exact hands_answerThenAsk x trivial
  | sort order => exact h.elim
  | sortBy label order => exact h.elim
  | scan label f seed text => exact ⟨_, steps_scan label f seed text⟩
  | reduce label f seed text => exact h.elim
  | zip partner text => exact ⟨_, steps_zip partner text⟩
  | enumerate =>
    exact ⟨_, steps_stateless (fun i x => hands_answerThenAsk (i, x) trivial) fun _ => ⟨[], rfl⟩⟩
  | inspect label observe =>
    exact ⟨_, steps_stateless (fun _ x => hands_asking [observe x] [x] trivial)
      fun _ => ⟨[], rfl⟩⟩

theorem steps_pass :
    (Machine.pass : Machine ω α α).Steps (fun _ => false) (fun _ => []) fun _ _ => True := by
  constructor
  · exact ⟨[], rfl, hands_askOn trivial⟩
  · exact fun _ s x _ _ => hands_answerThenAsk x trivial
  · exact fun _ _ _ => ⟨[], rfl⟩
  · exact fun _ _ => id

theorem Op.FiniteBursts.realises {op : Op ω α β} (h : op.FiniteBursts) :
    op.machine.Realises op.made := by
  intro items
  exact (op.collect_eq items).trans (h.reference_eq items)

/-- The machine of a prompt transducer keeps to the course of its stages, if no item expands without
end. -/
theorem Transducer.keeps (t : Transducer ω α β) (h : t.Prompt) (hb : t.FiniteBursts) :
    t.course.Sound ∧ ∃ stands, t.machine.Keeps t.course stands := by
  induction t with
  | identity => exact ⟨steps_pass.sound realises_pass, _, steps_pass.keeps realises_pass⟩
  | op operation =>
    have hr : operation.machine.Realises operation.made := Op.FiniteBursts.realises hb
    obtain ⟨stands, hs⟩ := operation.steps h hb
    exact ⟨hs.sound hr, _, hs.keeps hr⟩
  | compose first second hf hg =>
    obtain ⟨hsf, standsf, hkf⟩ := hf h.1 hb.1
    obtain ⟨hsg, standsg, hkg⟩ := hg h.2 hb.2
    exact ⟨hsf.andThen hsg, _, hkf.chain hsf hkg hsg⟩

end ParseFlow.Pipeline
