import ParseFlow.Grammar.Comment
import ParseFlow.Grammar.JsDoc
import ParseFlow.Proofs.Parser.Repetition

/-!
# What a trace tells of the parse

Every parser that is run as such tells at its end how it fared, and on which stretch of its source.
All parsers inside one run on suffixes of its input and leave suffixes of these, so that their
stretches lie inside its own input. The attempts of a repetition are stretches in a row, from where
it begins to where it stops, and behind them there is at most one that failed.
-/
namespace ParseFlow

open Text View

variable {α β γ δ : Type}

namespace TraceEvent

/-- No parser fared outside the view, as far as the event tells. -/
def Inside (v : View α) (e : TraceEvent) : Prop :=
  ∀ place ∈ e.stretch?, v.offset ≤ place.1 ∧ place.1 ≤ place.2 ∧ place.2 ≤ v.offset + v.len

variable {v w : View α} {e : TraceEvent}

theorem inside_of_none (h : e.stretch? = none) : e.Inside v := by
  intro place hplace
  rw [h] at hplace
  cases hplace

theorem Inside.of_suffix [Item α] (he : e.Inside w) (hw : w.IsSuffix v) : e.Inside v := by
  intro place hplace
  obtain ⟨hstart, hle, hstop⟩ := he place hplace
  have hge := hw.start_ge
  have heq := hw.stop_eq
  omega

theorem inside_ofOutcome [Item α] (parser : Description) {outcome : Outcome α β}
    (h : outcome.rest.IsSuffix v) (he : e ∈ ofOutcome parser v outcome) : e.Inside v := by
  have hstretch : e.stretch? = some (v.offset, outcome.rest.offset) := by
    cases outcome <;> cases he <;> rfl
  intro place hplace
  rw [hstretch] at hplace
  cases hplace
  exact ⟨Nat.le_refl _, h.start_ge, h.start_le⟩

end TraceEvent

namespace Traced

/-- No parser fared outside the view. -/
def Inside (v : View α) (x : Traced β) : Prop := ∀ e ∈ x.events, e.Inside v

variable {v w : View α} {x : Traced β}

theorem inside_pure (value : β) : (pure value : Traced β).Inside v := nofun

theorem inside_emit {e : TraceEvent} (h : e.Inside v) : (emit e).Inside v :=
  fun _ he => List.mem_singleton.mp he ▸ h

theorem inside_emit? {event : Option TraceEvent} (h : ∀ e ∈ event, e.Inside v) :
    (emit? event).Inside v :=
  fun e he => h e (Option.mem_toList.mp he)

theorem Inside.bind {f : β → Traced γ} (hx : x.Inside v) (hf : (f x.value).Inside v) :
    (x >>= f).Inside v :=
  fun e he => (List.mem_append.mp he).elim (hx e) (hf e)

theorem Inside.onSuccess {x : Traced (Outcome α β)} {f : β → View α → Traced (Outcome α γ)}
    (hx : x.Inside v) (hf : ∀ b rest, x.value = .success b rest → (f b rest).Inside v) :
    (x.onSuccess f).Inside v := by
  refine hx.bind ?_
  cases hval : x.value with
  | success b rest => exact hf b rest hval
  | failure reason rest => exact inside_pure _
  | endless rest => exact inside_pure _

theorem inside_ite {p : Prop} [Decidable p] {y : Traced β} (hx : x.Inside v) (hy : y.Inside v) :
    (if p then x else y).Inside v :=
  iteInduction (motive := Inside v) (fun _ => hx) fun _ => hy

theorem Inside.of_suffix [Item α] (hx : x.Inside w) (hw : w.IsSuffix v) : x.Inside v :=
  fun e he => (hx e he).of_suffix hw

end Traced

namespace Parser

open Traced Pipeline

/-! ## Parsers that leave their trace inside the input -/

variable [Item α]

/-- The parser fares alike on equal windows, so that it leaves suffixes; and no parser inside it
fares outside of its input. -/
structure Accounted (p : Parser α β) : Prop where
  isLocal : Local p
  inside : ∀ ⦃v : View α⦄, v.Valid → (p.matcher v).Inside v

section Parse

variable {p : Parser α β} {v w : View α}

theorem Accounted.parse_inside (h : Accounted p) (hv : v.Valid) : (p.parse v).Inside v := by
  have hown : ∀ e ∈ TraceEvent.ofOutcome p.description v (p.matcher v).value, e.Inside v :=
    fun _ => TraceEvent.inside_ofOutcome p.description (h.isLocal.isSuffix_rest hv)
  exact (h.inside hv).bind ((inside_emit? hown).bind (inside_pure _))

theorem Accounted.parse_inside_of_suffix (h : Accounted p) (hv : v.Valid) (hw : w.IsSuffix v) :
    (p.parse w).Inside v :=
  (h.parse_inside (hw.valid hv)).of_suffix hw

end Parse

/-! ## Stages -/

section Stages

variable {p : Parser α β}

theorem accounted_redescribe (hp : Accounted p) (form : Form) (parts : List Description) :
    Accounted (p.redescribe form parts) :=
  ⟨hp.isLocal, hp.inside⟩

theorem accounted_map (hp : Accounted p) (label : String) (f : β → γ) :
    Accounted (p.map label f) where
  isLocal := local_map hp.isLocal label f
  inside _ hv := (hp.inside hv).bind (inside_pure _)

theorem accounted_mapTraced (hp : Accounted p) (label : String) {f : β → Traced γ}
    (hf : ∀ b, ∀ e ∈ (f b).events, e.stretch? = none) : Accounted (p.mapTraced label f) where
  isLocal := local_mapTraced hp.isLocal label f
  inside _ hv := (hp.inside hv).onSuccess fun b _ _ =>
    have hown : (f b).Inside _ := fun e he => TraceEvent.inside_of_none (hf b e he)
    hown.bind (inside_pure _)

theorem accounted_flatMap {f : β → Parser α γ} (hp : Accounted p) (hf : ∀ b, Accounted (f b))
    (label : String) : Accounted (p.flatMap label f) where
  isLocal := local_flatMap hp.isLocal (fun b => (hf b).isLocal) label
  inside _ hv := (hp.inside hv).onSuccess fun b _ hval =>
    (hf b).parse_inside_of_suffix hv (hp.isLocal.isSuffix hv hval)

theorem accounted_filter (hp : Accounted p) (label : String) (keep : β → Bool) :
    Accounted (p.filter label keep) where
  isLocal := local_filter hp.isLocal label keep
  inside _ hv := (hp.inside hv).onSuccess fun _ _ _ =>
    inside_ite (inside_pure _) ((inside_emit (TraceEvent.inside_of_none rfl)).bind (inside_pure _))

theorem accounted_pipeItems {ω : Type} (hp : Accounted p) (items : β → Items γ)
    (t : Transducer ω γ δ) : Accounted (p.pipeItems items t) where
  isLocal := local_pipeItems hp.isLocal items t
  inside _ hv := (hp.inside hv).bind (inside_pure _)

theorem accounted_thread {ω : Type} (hp : Accounted p) (t : Transducer ω β γ) :
    Accounted (p.thread t) where
  isLocal := local_thread hp.isLocal t
  inside v hv := (hp.inside hv).onSuccess fun b rest _ => by
    match t.applyValue b with
    | some (.ok result) => exact inside_pure _
    | some (.error stage) => exact (inside_emit (TraceEvent.inside_of_none rfl)).bind (inside_pure _)
    | none => exact inside_pure _

end Stages

/-! ## Sequences -/

theorem accounted_then {p : Parser α β} {q : Parser α γ} (hp : Accounted p) (hq : Accounted q) :
    Accounted (p.then q) where
  isLocal := local_then hp.isLocal hq.isLocal
  inside _ hv := (hp.parse_inside hv).onSuccess fun _ _ hval =>
    (hq.parse_inside_of_suffix hv (hp.isLocal.isSuffix hv hval)).bind (inside_pure _)

theorem accounted_precededBy {core : Parser α β} {opening : Parser α γ} (hc : Accounted core)
    (ho : Accounted opening) : Accounted (core.precededBy opening) :=
  accounted_redescribe (accounted_map (accounted_then ho hc) _ _) _ _

theorem accounted_followedBy {core : Parser α β} {closing : Parser α γ} (hc : Accounted core)
    (hl : Accounted closing) : Accounted (core.followedBy closing) :=
  accounted_redescribe (accounted_map (accounted_then hc hl) _ _) _ _

theorem accounted_nothing : Accounted (nothing : Parser α (List β)) where
  isLocal v w _ := .success [] (.refl v w)
  inside _ _ := inside_pure _

theorem accounted_list {parsers : List (Parser α β)} (h : ∀ p ∈ parsers, Accounted p) :
    Accounted (list parsers) := by
  have hfold : ∀ collected : Parser α (List β), Accounted collected →
      Accounted (parsers.foldl (fun collected p =>
        (collected.then p).map "push" fun both => both.1 ++ [both.2]) collected) := by
    induction parsers with
    | nil => exact fun _ hcollected => hcollected
    | cons p parsers ih =>
      intro collected hcollected
      have hp := accounted_then hcollected (h p List.mem_cons_self)
      exact ih (fun q hq => h q (List.mem_cons_of_mem _ hq)) _ (accounted_map hp _ _)
  exact accounted_redescribe (hfold nothing accounted_nothing) _ _

theorem accounted_tuple {n : Nat} {parsers : List (Parser α β)} {q : Parser α (Vector β n)}
    (h : ∀ p ∈ parsers, Accounted p) (hq : tuple n parsers = .ok q) : Accounted q where
  isLocal := local_tuple (fun p hp => (h p hp).isLocal) hq
  inside v hv := by
    unfold tuple at hq
    split at hq
    · cases hq
    · cases hq
      exact ((accounted_list h).parse_inside hv).bind (inside_pure _)

/-! ## Repetition -/

section Repetition

variable {p : Parser α β} {v w : View α}

/-- The loop runs its parser on suffixes only. -/
theorem Accounted.repeatedly_inside (hp : Accounted p) (hv : v.Valid) (hw : w.IsSuffix v)
    (max : Nat) : (p.repeatedly max w).Inside v := by
  have hattempts : (p.attempts max w).Inside v := by
    intro e he
    rw [attempts_events] at he
    obtain ⟨u, hu, he⟩ := List.mem_flatMap.mp he
    have hsuffix := (hp.isLocal.leavesSuffixes hv).isSuffix_of_attempted hw hu
    exact hp.parse_inside_of_suffix hv hsuffix e he
  exact hattempts.onSuccess fun _ _ _ =>
    (inside_emit (TraceEvent.inside_of_none rfl)).bind (inside_pure _)

theorem accounted_many (hp : Accounted p) : Accounted p.many where
  isLocal := local_many hp.isLocal
  inside _ hv := hp.repeatedly_inside hv hv.isSuffix_refl maxIndex

theorem accounted_many1 (hp : Accounted p) : Accounted p.many1 where
  isLocal := local_many1 hp.isLocal
  inside v hv := by
    refine (hp.parse_inside hv).bind ?_
    cases hval : (p.parse v).value with
    | success b rest =>
      dsimp only
      split
      · exact inside_pure _
      · have hrest : rest.IsSuffix v := hp.isLocal.isSuffix hv hval
        exact (hp.repeatedly_inside hv hrest maxIndex).bind (inside_pure _)
    | failure reason rest => exact inside_pure _
    | endless rest => exact inside_pure _

theorem accounted_repeat {q : Parser α (List β)} {min max : Nat} (hp : Accounted p)
    (hq : p.repeat min max = .ok q) : Accounted q where
  isLocal := local_repeat hp.isLocal hq
  inside v hv := by
    unfold «repeat» at hq
    split at hq
    · cases hq
    · cases hq
      exact (hp.repeatedly_inside hv hv.isSuffix_refl max).onSuccess fun _ _ _ =>
        inside_ite (inside_pure _) (inside_pure _)

end Repetition

/-! ## Parsers whose stages run no others -/

/-- A parser that is built, and in whose stages no function runs a parser of its own. -/
abbrev Assembled (p : Parser α β) : Prop := BuiltBy ⟨True, False⟩ p

/-- A matcher of the beginning runs no other parsers. -/
theorem accounted_of_recognises {p : Parser α β} {find : List α → Option (β × List α)}
    {reason : String} (h : Recognises p find reason) (hinside : ∀ v, (p.matcher v).Inside v) :
    Accounted p :=
  ⟨local_of_recognises h, fun v _ => hinside v⟩

theorem BuiltBy.accounted {rules : Rules} {p : Parser α β} (hp : BuiltBy rules p)
    (h : rules.quiet) : Accounted p := by
  induction hp with
  | string literal =>
    refine accounted_of_recognises (recognises_string literal) fun v => ?_
    exact inside_ite (inside_pure _) (inside_pure _)
  | regex compiled =>
    refine accounted_of_recognises (recognises_longest compiled) fun v => ?_
    dsimp only [longest, ofForm]
    split
    · exact inside_pure _
    · exact inside_pure _
    · exact (inside_emit (TraceEvent.inside_of_none rfl)).bind (inside_pure _)
  | pattern compiled =>
    refine accounted_of_recognises (recognises_pattern compiled) fun v => ?_
    dsimp only [Parser.pattern, ofForm]
    split
    · exact inside_pure _
    · exact inside_pure _
  | sequence items =>
    refine accounted_of_recognises (recognises_sequence items) fun v => ?_
    exact inside_ite (inside_pure _) (inside_pure _)
  | satisfy label accept =>
    refine accounted_of_recognises (recognises_satisfy label accept) fun v => ?_
    dsimp only [Parser.satisfy, ofForm]
    split
    · exact inside_ite (inside_pure _) (inside_pure _)
    · exact inside_pure _
  | any =>
    refine accounted_of_recognises recognises_any fun v => ?_
    dsimp only [Parser.any, ofForm]
    split
    · exact inside_pure _
    · exact inside_pure _
  | «end» =>
    refine accounted_of_recognises recognises_end fun v => ?_
    exact inside_ite (inside_pure _) (inside_pure _)
  | «then» _ _ hp hq => exact accounted_then hp hq
  | precededBy _ _ hc ho => exact accounted_precededBy hc ho
  | followedBy _ _ hc hl => exact accounted_followedBy hc hl
  | between _ _ _ hc ho hl =>
    exact accounted_redescribe (accounted_followedBy (accounted_precededBy hc ho) hl) _ _
  | many _ hp => exact accounted_many hp
  | many1 _ hp => exact accounted_many1 hp
  | «repeat» _ hq hp => exact accounted_repeat hp hq
  | list _ hp => exact accounted_list hp
  | pair _ _ hp hq => exact accounted_redescribe (accounted_then hp hq) _ _
  | triple _ _ _ h₁ h₂ h₃ =>
    exact accounted_redescribe (accounted_map (accounted_then (accounted_then h₁ h₂) h₃) _ _) _ _
  | tuple _ hq hp => exact accounted_tuple hp hq
  | map label f _ hp => exact accounted_map hp label f
  | mapTraced label _ hf hp => exact accounted_mapTraced hp label (hf h)
  | flatMap label _ _ hp hf => exact accounted_flatMap hp hf label
  | filter label keep _ hp => exact accounted_filter hp label keep
  | pipe items t _ _ hp => exact accounted_pipeItems hp items t
  | thread t _ _ hp => exact accounted_thread hp t

/-- The function that strips the markers of a comment tells what it does, and runs no parser. -/
theorem assembled_comments : Assembled Grammar.comments := by
  have hcomment : Assembled Grammar.comment := by
    refine .mapTraced _ (.pattern _) fun _ text e he => ?_
    have hevents : e = .strippingMarkers ∨ ∃ shown, e = .comment shown := by
      simp only [Grammar.Comment.ofText, events_bind, emit, events_pure, List.mem_append,
        List.mem_singleton, List.not_mem_nil, or_false] at he
      exact he.imp_right fun h => ⟨_, h⟩
    rcases hevents with rfl | ⟨shown, rfl⟩ <;> rfl
  exact .many (.precededBy hcomment (.pattern _))

theorem assembled_doc : Assembled Grammar.doc := by
  refine .mapTraced _ (.between (.pattern _) (.string _) (.pattern _)) fun _ body e he => ?_
  have hevents : (∃ length, e = .readingBody length) ∨ ∃ tags, e = .parsedDoc tags := by
    simp only [Grammar.JsDoc.ofBody, events_bind, emit, events_pure, List.mem_append,
      List.mem_singleton, List.not_mem_nil, or_false] at he
    exact he.imp (fun h => ⟨_, h⟩) fun h => ⟨_, h⟩
  rcases hevents with ⟨length, rfl⟩ | ⟨tags, rfl⟩ <;> rfl

/-! ## The attempts of a repetition -/

/-- Successes of a parser in a row, from one place to another. -/
inductive Contiguous (parser : Description) : (start stop : Nat) → List TraceEvent → Prop
  | nil (place : Nat) : Contiguous parser place place []
  | cons {start next stop : Nat} {events : List TraceEvent} :
      Contiguous parser next stop events →
      Contiguous parser start stop (.succeeded parser start next :: events)

/-- What the parser tells of itself when it is run, once it has returned. -/
def own? (p : Parser α β) (v : View α) : Option TraceEvent :=
  TraceEvent.ofOutcome p.description v (p.parse v).value

omit [Item α] in
theorem events_parse (p : Parser α β) (v : View α) :
    (p.parse v).events = (p.matcher v).events ++ (p.own? v).toList := by
  show (p.matcher v).events ++ ((p.own? v).toList ++ []) = _
  rw [List.append_nil]

omit [Item α] in
/-- The loop succeeds once for each value, in a row, and then it has failed at most once, where it
stops. -/
theorem attempted_own (p : Parser α β) (max : Nat) {v rest : View α} {values : List β}
    (h : (p.attempts max v).value = .success values rest) :
    ∃ successes failures,
      (p.attempted max v).map p.own? = (successes ++ failures).map some ∧
      successes.length = values.length ∧
      Contiguous p.description v.offset rest.offset successes ∧
      failures.length ≤ 1 ∧ ∀ e ∈ failures, ∃ stopped reason,
        e = .failed p.description rest.offset stopped reason := by
  induction max generalizing v values with
  | zero =>
    cases h
    exact ⟨[], [], rfl, rfl, .nil _, Nat.zero_le 1, nofun⟩
  | succ max ih =>
    cases hp : (p.parse v).value with
    | endless stop => rw [attempts_endless hp] at h; cases h
    | failure reason stop =>
      have hown : p.own? v =
          some (.failed p.description v.offset stop.offset (escaped reason)) := by
        rw [own?, hp]
        rfl
      rw [attempts_failure hp] at h
      cases h
      rw [attempted, hp, List.map_singleton, hown]
      refine ⟨[], [_], rfl, rfl, .nil _, Nat.le_refl 1, fun e he => ?_⟩
      exact ⟨_, _, List.mem_singleton.mp he⟩
    | success b next =>
      have hown : p.own? v = some (.succeeded p.description v.offset next.offset) := by
        rw [own?, hp]
        rfl
      rw [attempted, hp, List.map_cons, hown]
      by_cases ho : next.offset = v.offset
      · rw [attempts_stuck hp ho] at h
        cases h
        simp only [if_pos ho]
        exact ⟨[_], [], rfl, rfl, .cons (.nil _), Nat.zero_le 1, nofun⟩
      · rw [attempts_onwards hp ho] at h
        obtain ⟨later, hlater, rfl⟩ := Outcome.map_eq_success_iff.mp h
        obtain ⟨successes, failures, hall, hlen, hrow, hone, hfailed⟩ := ih hlater
        simp only [if_neg ho, hall]
        exact ⟨_ :: successes, failures, rfl, congrArg (· + 1) hlen, .cons hrow, hone, hfailed⟩

omit [Item α] in
theorem events_many (p : Parser α β) {v rest : View α} {values : List β}
    (h : (p.many.parse v).value = .success values rest) :
    (p.many.parse v).events = ((p.attempted maxIndex v).flatMap fun w => (p.parse w).events) ++
      [.repetitionEnded values.length rest.offset,
        .succeeded p.many.description v.offset rest.offset] := by
  have hown : p.many.own? v = some (.succeeded p.many.description v.offset rest.offset) := by
    rw [own?, h]
    rfl
  have hattempts : (p.attempts maxIndex v).value = .success values rest :=
    (p.value_many v).symm.trans h
  have hloop : (p.many.matcher v).events = (p.attempts maxIndex v).events ++
      [.repetitionEnded values.length rest.offset] := by
    show ((p.attempts maxIndex v).onSuccess _).events = _
    rw [Traced.onSuccess, Traced.events_bind, hattempts]
    rfl
  rw [events_parse, hloop, hown, attempts_events, List.append_assoc]
  rfl

/-- The last event of a parse that has returned tells how the parser itself fared: where it began,
where what is left begins, and the reason if it failed. No other parser fared outside of the input.
A repetition does not fail, and returns if all its calls do. When it has, its calls succeeded once
for each value, in a row from the beginning of the input to what is left of it, and then failed once
at most, on what is left. -/
theorem trace_accounts {p : Parser α β} (hp : Assembled p) {v : View α} (hv : v.Valid) :
    (∃ before, (∀ e ∈ before, e.Inside v) ∧
      (∀ value rest, (p.parse v).value = .success value rest →
        (p.parse v).events = before ++ [.succeeded p.description v.offset rest.offset]) ∧
      (∀ reason rest, (p.parse v).value = .failure reason rest →
        (p.parse v).events =
          before ++ [.failed p.description v.offset rest.offset (escaped reason)]) ∧
      ((p.parse v).value.returns = false → (p.parse v).events = before)) ∧
    (p.many.parse v).value.isFailure = false ∧
    ((p.many.parse v).value.returns ↔
      ∀ w ∈ p.attempted maxIndex v, (p.parse w).value.returns) ∧
    ∀ values rest, (p.many.parse v).value = .success values rest →
      ∃ (calls : List (View α)) (successes failures : List TraceEvent),
        (p.many.parse v).events = (calls.flatMap fun w => (p.parse w).events) ++
          [.repetitionEnded values.length rest.offset,
            .succeeded p.many.description v.offset rest.offset] ∧
        (calls.map fun w => (p.parse w).events.getLast?) = (successes ++ failures).map some ∧
        successes.length = values.length ∧
        Contiguous p.description v.offset rest.offset successes ∧
        failures.length ≤ 1 ∧
        ∀ e ∈ failures, ∃ stopped reason,
          e = .failed p.description rest.offset stopped reason := by
  refine ⟨⟨_, (hp.accounted trivial).inside hv, fun value rest h => ?_, fun reason rest h => ?_,
    fun h => ?_⟩, ?_, ?_, fun values rest h => ?_⟩
  · rw [events_parse, own?, h]
    rfl
  · rw [events_parse, own?, h]
    rfl
  · rw [events_parse, own?]
    cases hval : (p.parse v).value with
    | endless rest => exact List.append_nil _
    | success value rest => rw [hval] at h; cases h
    | failure reason rest => rw [hval] at h; cases h
  · rw [value_parse, value_many]
    exact attempts_isFailure p maxIndex v
  · rw [value_parse, value_many]
    exact returns_attempts p maxIndex v
  · have hattempts : (p.attempts maxIndex v).value = .success values rest :=
      (p.value_many v).symm.trans h
    obtain ⟨successes, failures, hall, hlen, hrow, hone, hfailed⟩ := p.attempted_own _ hattempts
    refine ⟨p.attempted maxIndex v, successes, failures, p.events_many h, ?_, hlen, hrow, hone,
      hfailed⟩
    rw [← hall]
    refine List.map_congr_left fun w hw => ?_
    obtain ⟨e, -, he⟩ := List.mem_map.mp (hall ▸ List.mem_map_of_mem hw)
    rw [events_parse, ← he]
    exact List.getLast?_concat

/-- Letters with digits behind them, in the middle of a source: twice there are some, and then there
are none. -/
theorem trace_accounts_letters :
    let v : View Char := ⟨⟨0, ['é', 'x', '1', 'x', 'y']⟩, 2, 4⟩
    let p : Parser Char (Char × List Char) :=
      (satisfy "x" (· == 'x')).then (satisfy "1" (· == '1')).many
    Assembled p ∧ v.Valid ∧
      (∃ before, (p.parse v).events = before ++ [.succeeded p.description 2 4] ∧
        before.length = 5 ∧ ∀ e ∈ before, e.Inside v) ∧
      ∃ successes, successes.length = 2 ∧ Contiguous p.description 2 5 successes := by
  intro v p
  have hp : Assembled p := .then (.satisfy "x" _) (.many (.satisfy "1" _))
  have hv : v.Valid :=
    ⟨⟨['é'], ['x', '1', 'x', 'y'], rfl, by decide⟩,
      ⟨['é', 'x', '1', 'x', 'y'], [], rfl, by decide⟩⟩
  obtain ⟨⟨before, hinside, hsuccess, -⟩, -, -, hcalls⟩ := trace_accounts hp hv
  have hvalue : (p.parse v).value.value? = some ('x', ['1']) := by decide
  have hrest : (p.parse v).value.rest.offset = 4 := by decide
  have hcount : (p.parse v).events.length = 6 := by decide
  have hvalues : (p.many.parse v).value.value? = some [('x', ['1']), ('x', [])] := by decide
  have hstop : (p.many.parse v).value.rest.offset = 5 := by decide
  have hevents := hsuccess _ _ (Outcome.eq_success hvalue)
  obtain ⟨-, successes, -, -, -, hlen, hrow, -⟩ := hcalls _ _ (Outcome.eq_success hvalues)
  rw [hrest] at hevents
  rw [hevents, List.length_append] at hcount
  rw [hstop] at hrow
  exact ⟨hp, hv, ⟨before, hevents, Nat.succ.inj hcount, hinside⟩, successes, hlen, hrow⟩

end Parser
end ParseFlow
