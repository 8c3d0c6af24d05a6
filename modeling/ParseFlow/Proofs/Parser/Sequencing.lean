import ParseFlow.Proofs.Parser.Value

/-!
# Sequencing

A list of parsers is folded from the left, one parser after the other being put behind what has been
collected so far. What it comes to is told from the front: `Row` is a run in which every parser
succeeds on what the one before it left, and `Breaks` is one in which the first parser to fail is
named, as `Stalls` names the first that never returns. Either way the parse halts there, and the fold
goes on without running anything, so that nothing of the later parsers but their descriptions is
used. The combinators of a fixed number of parsers are the same sequence with its values taken apart.
-/
namespace ParseFlow

variable {α β γ δ ε : Type}

namespace Outcome

/-- What there is without a value: a failure for a reason, or else no end. -/
def halted (reason? : Option String) (rest : View α) : Outcome α β :=
  match reason? with
  | some reason => failure reason rest
  | none => endless rest

variable {reason? : Option String} {rest last : View α} {b : β}

theorem exists_success_or_halted (outcome : Outcome α β) :
    (∃ value rest, outcome = success value rest) ∨
      ∃ reason? rest, outcome = halted reason? rest := by
  cases outcome with
  | success value rest => exact .inl ⟨value, rest, rfl⟩
  | failure reason rest => exact .inr ⟨some reason, rest, rfl⟩
  | endless rest => exact .inr ⟨none, rest, rfl⟩

theorem halted_ne_success : halted reason? rest ≠ success b last := by
  cases reason? <;> nofun

theorem halted_inj {other? : Option String} :
    (halted reason? rest : Outcome α β) = halted other? last ↔ reason? = other? ∧ rest = last := by
  cases reason? <;> cases other? <;> simp [halted]

theorem map_halted (f : β → γ) : (halted reason? rest).map f = halted reason? rest := by
  cases reason? <;> rfl

theorem flatMap_halted (f : β → View α → Outcome α γ) :
    (halted reason? rest).flatMap f = halted reason? rest := by
  cases reason? <;> rfl

theorem map_eq_halted {outcome : Outcome α β} {f : β → γ}
    (h : outcome.map f = halted reason? rest) :
    outcome = halted reason? rest := by
  cases reason? <;> cases outcome <;> cases h <;> rfl

end Outcome

namespace Parser

/-- Parsers that succeed one after the other, each on what the one before it left. -/
inductive Row : List (Parser α β) → View α → List β → View α → Prop
  | nil {v : View α} : Row [] v [] v
  | cons {p : Parser α β} {parsers : List (Parser α β)} {v rest last : View α} {b : β}
      {bs : List β} :
      (p.parse v).value = .success b rest → Row parsers rest bs last →
      Row (p :: parsers) v (b :: bs) last

/-- The parsers of `front` succeed one after the other, and `p` fails on what they left. -/
def Breaks (front : List (Parser α β)) (p : Parser α β) (v : View α) (reason : String)
    (rest : View α) : Prop :=
  ∃ bs last, Row front v bs last ∧ (p.parse last).value = .failure reason rest

/-- The parsers of `front` succeed one after the other, and `p` never returns from what they
left. -/
def Stalls (front : List (Parser α β)) (p : Parser α β) (v rest : View α) : Prop :=
  ∃ bs last, Row front v bs last ∧ (p.parse last).value = .endless rest

/-- The parsers of `front` succeed one after the other, and `p` does not. -/
def Halts (front : List (Parser α β)) (p : Parser α β) (v : View α) (reason? : Option String)
    (rest : View α) : Prop :=
  ∃ bs last, Row front v bs last ∧ (p.parse last).value = .halted reason? rest

/-! ## From the front -/

/-- The first parser goes first, whatever the fold begins with. -/
theorem value_list_cons (p : Parser α β) (parsers : List (Parser α β)) (v : View α) :
    ((list (p :: parsers)).matcher v).value =
      (p.matcher v).value.flatMap fun b rest =>
        ((list parsers).matcher rest).value.map fun bs => b :: bs := by
  -- from the end, where the fold adds
  induction parsers using List.reverseRecOn with
  | nil =>
    rw [← List.nil_append [p], value_list_concat]
    rfl
  | append_singleton parsers q ih =>
    rw [← List.cons_append, value_list_concat, ih]
    simp only [value_list_concat, Outcome.flatMap_assoc, Outcome.flatMap_map, Outcome.map_flatMap,
      Outcome.map_map, List.cons_append]

/-- Two lists of parsers one behind the other are the list of them all. -/
theorem value_list_append (parsers others : List (Parser α β)) (v : View α) :
    ((list (parsers ++ others)).matcher v).value =
      ((list parsers).matcher v).value.flatMap fun bs rest =>
        ((list others).matcher rest).value.map fun cs => bs ++ cs := by
  induction parsers generalizing v with
  | nil =>
    simp only [List.nil_append, value_list_nil, Outcome.flatMap]
    cases ((list others).matcher v).value <;> rfl
  | cons p parsers ih =>
    simp only [List.cons_append, value_list_cons, ih, Outcome.flatMap_assoc, Outcome.flatMap_map,
      Outcome.map_flatMap, Outcome.map_map]

theorem list_eq_success_iff {parsers : List (Parser α β)} {v last : View α} {bs : List β} :
    ((list parsers).matcher v).value = .success bs last ↔ Row parsers v bs last := by
  induction parsers generalizing v bs with
  | nil =>
    rw [value_list_nil]
    constructor
    · intro h
      cases h
      exact .nil
    · rintro ⟨⟩
      rfl
  | cons p parsers ih =>
    rw [value_list_cons]
    constructor
    · intro h
      cases hp : (p.matcher v).value with
      | failure reason rest => rw [hp] at h; cases h
      | endless rest => rw [hp] at h; cases h
      | success b rest =>
        rw [hp, Outcome.flatMap] at h
        obtain ⟨cs, hcs, rfl⟩ := Outcome.map_eq_success_iff.mp h
        exact .cons hp (ih.mp hcs)
    · rintro (_ | ⟨hp, hr⟩)
      rw [value_parse] at hp
      rw [hp, Outcome.flatMap, ih.mpr hr, Outcome.map]

theorem Row.length_eq {parsers : List (Parser α β)} {v last : View α} {bs : List β}
    (h : Row parsers v bs last) : bs.length = parsers.length := by
  induction h with
  | nil => rfl
  | cons _ _ ih => rw [List.length_cons, List.length_cons, ih]

theorem list_eq_halted_iff {parsers : List (Parser α β)} {v rest : View α}
    (reason? : Option String) :
    ((list parsers).matcher v).value = .halted reason? rest ↔
      ∃ front p later, parsers = front ++ p :: later ∧ Halts front p v reason? rest := by
  constructor
  · intro h
    induction parsers generalizing v with
    | nil => exact absurd h.symm Outcome.halted_ne_success
    | cons p parsers ih =>
      rw [value_list_cons] at h
      rcases (p.matcher v).value.exists_success_or_halted with ⟨b, mid, hp⟩ | ⟨_, _, hp⟩
      · rw [hp] at h
        obtain ⟨front, q, later, rfl, bs, last, hr, hq⟩ := ih (Outcome.map_eq_halted h)
        exact ⟨p :: front, q, later, rfl, b :: bs, last, .cons hp hr, hq⟩
      · -- the first parser halts, and so the list does at once
        rw [hp, Outcome.flatMap_halted] at h
        obtain ⟨rfl, rfl⟩ := Outcome.halted_inj.mp h
        exact ⟨[], p, parsers, rfl, [], v, .nil, hp⟩
  · rintro ⟨front, p, later, rfl, bs, last, hr, hp⟩
    rw [value_parse] at hp
    rw [value_list_append, list_eq_success_iff.mpr hr, Outcome.flatMap, value_list_cons, hp,
      Outcome.flatMap_halted, Outcome.map_halted]

/-! ## Behind a parser that halts -/

/-- One more parser behind those collected. -/
def pushed (collected : Parser α (List β)) (p : Parser α β) : Parser α (List β) :=
  (collected.then p).map "push" fun both => both.1 ++ [both.2]

theorem list_eq_pushed (parsers : List (Parser α β)) :
    list parsers = (parsers.foldl pushed nothing).redescribe .list (parsers.map (·.description)) :=
  rfl

section Halted

variable {v rest : View α} {reason? : Option String}

/-- A parser that halts is not followed by the next one. -/
theorem then_of_halted {p : Parser α β} (h : (p.matcher v).value = .halted reason? rest)
    (q : Parser α γ) : (p.then q).matcher v = ⟨(p.parse v).events, .halted reason? rest⟩ := by
  rw [← value_parse] at h
  show (⟨_ ++ _, _⟩ : Traced _) = _
  rw [h]
  cases reason? with
  | some reason => exact congrArg (Traced.mk · _) (List.append_nil _)
  | none => exact congrArg (Traced.mk · _) (List.append_nil _)

theorem pushed_of_halted {collected : Parser α (List β)}
    (h : (collected.matcher v).value = .halted reason? rest) (p : Parser α β) :
    (pushed collected p).matcher v = ⟨(collected.parse v).events, .halted reason? rest⟩ := by
  show (⟨_ ++ _, _⟩ : Traced _) = _
  rw [then_of_halted h]
  simp only [Outcome.map_halted, Traced.events_pure, Traced.value_pure, List.append_nil]

/-- Two parsers with one description that run alike on a view, where they halt. -/
structure HaltAlike (p q : Parser α β) (v : View α) (reason? : Option String) (rest : View α) :
    Prop where
  description : p.description = q.description
  run : p.matcher v = q.matcher v
  halts : (p.matcher v).value = .halted reason? rest

theorem HaltAlike.pushed {p q : Parser α (List β)} (h : HaltAlike p q v reason? rest)
    {first second : Parser α β} (hd : first.description = second.description) :
    HaltAlike (pushed p first) (pushed q second) v reason? rest where
  description := by
    show ((Description.ofForm .then [_, _]).staged _) = (Description.ofForm .then [_, _]).staged _
    rw [h.description, hd]
  run := by
    have hq : (q.matcher v).value = .halted reason? rest := by rw [← h.run]; exact h.halts
    have hp : p.parse v = q.parse v := by rw [parse, parse, h.description, h.run]
    rw [pushed_of_halted h.halts, pushed_of_halted hq, hp]
  halts := by rw [pushed_of_halted h.halts]

theorem HaltAlike.collected {p q : Parser α (List β)} (h : HaltAlike p q v reason? rest)
    {later others : List (Parser α β)}
    (hd : others.map (·.description) = later.map (·.description)) :
    HaltAlike (later.foldl Parser.pushed p) (others.foldl Parser.pushed q) v reason? rest := by
  induction later generalizing p q others with
  | nil =>
    rw [List.map_nil, List.map_eq_nil_iff] at hd
    rw [hd]
    exact h
  | cons first later ih =>
    obtain ⟨second, others, rfl, hs, ho⟩ := List.map_eq_cons_iff.mp hd
    exact ih (h.pushed hs.symm) ho

/-- Behind the first parser that halts only the descriptions of the parsers matter. -/
theorem Halts.parse_list_eq {front : List (Parser α β)} {p : Parser α β}
    (h : Halts front p v reason? rest) {later others : List (Parser α β)}
    (hd : others.map (·.description) = later.map (·.description)) :
    (list (front ++ p :: others)).parse v = (list (front ++ p :: later)).parse v := by
  -- up to there both folds collect the same parser
  have hf : HaltAlike ((front ++ [p]).foldl pushed nothing) ((front ++ [p]).foldl pushed nothing)
      v reason? rest :=
    ⟨rfl, rfl, (list_eq_halted_iff reason?).mpr ⟨front, p, [], rfl, h⟩⟩
  have hm := (hf.collected hd).run
  simp only [← List.foldl_append, List.append_assoc, List.singleton_append] at hm
  simp only [list_eq_pushed, parse, redescribe, hm, List.map_append, List.map_cons, hd]

end Halted

/-! ## A fixed number of parsers -/

/-- A tuple of the right arity can be built, and its values are those of the list. -/
theorem exists_tuple (parsers : List (Parser α β)) :
    ∃ packed, tuple parsers.length parsers = .ok packed ∧
      ∀ v, (packed.matcher v).value.map Vector.toList = ((list parsers).matcher v).value := by
  obtain ⟨packed, hp⟩ : ∃ packed, tuple parsers.length parsers = .ok packed := by
    rw [tuple, if_neg (not_not_intro rfl)]
    exact ⟨_, rfl⟩
  refine ⟨packed, hp, fun v => ?_⟩
  rw [value_tuple hp]
  cases hl : ((list parsers).matcher v).value with
  | failure reason rest => rfl
  | endless rest => rfl
  | success bs rest =>
    simp only [Outcome.flatMap, (list_eq_success_iff.mp hl).length_eq, ↓reduceDIte, Outcome.map]
    rfl

section Readings

variable (first : Parser α β) (second : Parser α γ) (third : Parser α δ) (label : String)
  (f : β → ε) (g : γ → ε) (h : δ → ε) (v : View α)

theorem value_then_readings :
    ((first.then second).matcher v).value.map (fun b => [f b.1, g b.2]) =
      ((list [first.map label f, second.map label g]).matcher v).value := by
  simp only [value_then, value_list_cons, value_list_nil, value_map, Outcome.flatMap_map,
    Outcome.map_flatMap, Outcome.map_map, Outcome.map_success, Outcome.flatMap_success]

theorem value_triple_readings :
    ((triple first second third).matcher v).value.map (fun b => [f b.1, g b.2.1, h b.2.2]) =
      ((list [first.map label f, second.map label g, third.map label h]).matcher v).value := by
  simp only [value_triple, value_then, value_list_cons, value_list_nil, value_map,
    Outcome.flatMap_assoc, Outcome.flatMap_map, Outcome.map_flatMap, Outcome.map_map,
    Outcome.map_success, Outcome.flatMap_success]

end Readings

theorem value_between_triple (core : Parser α β) (opening : Parser α γ) (closing : Parser α δ)
    (v : View α) : ((core.between opening closing).matcher v).value =
      ((triple opening core closing).matcher v).value.map (·.2.1) := by
  rw [value_between, value_followedBy, value_triple, value_then, value_then, value_precededBy]
  simp only [Outcome.flatMap_map, Outcome.map_flatMap, Outcome.map_map]

/-- Sequencing has one meaning. A list of parsers succeeds with the values of a row, and fails as the
first parser to fail does, unless one before it never returns. What stands behind that one is not
run: other parsers of the same descriptions lead to the same outcome and the same trace. Lists are
put one behind the other by `then`, a tuple as long as its list is that list, and the combinators of
two or three parsers are lists of as many, whichever way their values are read into one type. -/
theorem sequences_run_in_turn (parsers others : List (Parser α β)) (first : Parser α β)
    (second : Parser α γ) (third : Parser α δ) (label : String) (f : β → ε) (g : γ → ε)
    (h : δ → ε) (v : View α) :
    (∀ bs last, ((list parsers).parse v).value = .success bs last ↔ Row parsers v bs last) ∧
    (∀ reason rest, ((list parsers).parse v).value = .failure reason rest ↔
      ∃ front p later, parsers = front ++ p :: later ∧ Breaks front p v reason rest) ∧
    (∀ rest, ((list parsers).parse v).value = .endless rest ↔
      ∃ front p later, parsers = front ++ p :: later ∧ Stalls front p v rest) ∧
    (∀ (front later instead : List (Parser α β)) (p : Parser α β) (reason : String)
      (rest : View α), Breaks front p v reason rest ∨ Stalls front p v rest →
      instead.map (·.description) = later.map (·.description) →
      (list (front ++ p :: instead)).parse v = (list (front ++ p :: later)).parse v) ∧
    ((list (parsers ++ others)).parse v).value =
      (((list parsers).then (list others)).parse v).value.map (fun b => b.1 ++ b.2) ∧
    (∃ packed, tuple parsers.length parsers = .ok packed ∧
      (packed.parse v).value.map Vector.toList = ((list parsers).parse v).value) ∧
    ((first.then second).parse v).value.map (fun b => [f b.1, g b.2]) =
      ((list [first.map label f, second.map label g]).parse v).value ∧
    ((pair first second).parse v).value.map (fun b => [f b.1, g b.2]) =
      ((list [first.map label f, second.map label g]).parse v).value ∧
    ((triple first second third).parse v).value.map (fun b => [f b.1, g b.2.1, h b.2.2]) =
      ((list [first.map label f, second.map label g, third.map label h]).parse v).value ∧
    ((second.precededBy first).parse v).value = ((pair first second).parse v).value.map (·.2) ∧
    ((first.followedBy second).parse v).value = ((pair first second).parse v).value.map (·.1) ∧
    ((second.between first third).parse v).value =
      ((triple first second third).parse v).value.map (·.2.1) := by
  simp only [value_parse]
  refine ⟨fun _ _ => list_eq_success_iff, fun reason _ => list_eq_halted_iff (some reason),
    fun _ => list_eq_halted_iff none, ?_, ?_, ?_, ?_, ?_, ?_, ?_, ?_, ?_⟩
  · intro front later instead p reason rest h hd
    have hhalts : ∃ reason?, Halts front p v reason? rest :=
      h.elim (fun hb => ⟨some reason, hb⟩) fun hs => ⟨none, hs⟩
    obtain ⟨reason?, hhalts⟩ := hhalts
    exact hhalts.parse_list_eq hd
  · rw [value_list_append, value_then]
    simp only [Outcome.map_flatMap, Outcome.map_map]
  · obtain ⟨packed, hp, hv⟩ := exists_tuple parsers
    exact ⟨packed, hp, hv v⟩
  · exact value_then_readings first second label f g v
  · rw [value_pair]
    exact value_then_readings first second label f g v
  · exact value_triple_readings first second third label f g h v
  · rw [value_precededBy, value_pair]
  · rw [value_followedBy, value_pair]
  · exact value_between_triple second first third v

/-- The second of three parsers fails behind the first, and the third might as well accept
anything. -/
theorem sequences_run_in_turn_broken :
    let v : View Char := ⟨⟨0, ['x', 'y', 'x']⟩, 0, 3⟩
    let x : Parser Char Char := satisfy "x" (· == 'x')
    let anything : Parser Char Char := ⟨x.description, any.matcher⟩
    Breaks [x] x v "expected satisfy(x)" (v.advance 1) ∧
      ((list [x, x, x]).parse v).value = .failure "expected satisfy(x)" (v.advance 1) ∧
      (list [x, x, anything]).parse v = (list [x, x, x]).parse v := by
  intro v x anything
  have hb : Breaks [x] x v "expected satisfy(x)" (v.advance 1) :=
    ⟨['x'], v.advance 1, .cons rfl .nil, rfl⟩
  obtain ⟨-, hfails, -, hinstead, -⟩ :=
    sequences_run_in_turn [x, x, x] [] x x x "same" id id id v
  exact ⟨hb, (hfails _ _).mpr ⟨[x], x, [x], rfl, hb⟩,
    hinstead [x] [x] [anything] x _ _ (.inl hb) rfl⟩

end Parser
end ParseFlow
