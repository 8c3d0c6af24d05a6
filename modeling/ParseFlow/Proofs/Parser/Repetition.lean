import ParseFlow.Proofs.Parser.Returning

/-!
# Greedy runs

A greedy run applies a parser again and again where its last match ended. It is described without a
bound: it ends before the first failure or after the first match that consumes nothing. The
repetition loop collects the beginning of the greedy run that its bound allows, and the three
repetitions are read off from it. Where every match leaves a suffix of its input, each match but the
last makes the rest shorter, so that the run is finite, the loop makes at most one attempt more than
there are positions, and a bound beyond that changes nothing.
-/
namespace ParseFlow

variable {α β γ : Type}

namespace Traced

/-- What follows a traced value matters for that value only. -/
theorem bind_congr {x : Traced β} {f g : β → Traced γ} (h : f x.value = g x.value) :
    (x >>= f) = (x >>= g) := by
  show (⟨x.events ++ (f x.value).events, (f x.value).value⟩ : Traced γ) = _
  rw [h]
  rfl

end Traced

namespace Parser

open View Pipeline

/-- The matches of a parser in a row from a view, each with what it leaves. -/
inductive GreedyRun (p : Parser α β) : View α → List (β × View α) → Prop
  | failed {v rest : View α} {reason : String} :
      (p.parse v).value = .failure reason rest → GreedyRun p v []
  | stuck {v rest : View α} {b : β} :
      (p.parse v).value = .success b rest → rest.offset = v.offset → GreedyRun p v [(b, rest)]
  | onwards {v rest : View α} {b : β} {run : List (β × View α)} :
      (p.parse v).value = .success b rest → rest.offset ≠ v.offset → GreedyRun p rest run →
      GreedyRun p v ((b, rest) :: run)

/-- What is left of `v` behind matches in a row. -/
def leftBy (v : View α) : List (β × View α) → View α
  | [] => v
  | (_, rest) :: run => leftBy rest run

/-- The views on which the repetition loop runs its parser. -/
def attempted (p : Parser α β) : (max : Nat) → View α → List (View α)
  | 0, _ => []
  | max + 1, v =>
    v :: match (p.parse v).value with
      | .success _ rest => if rest.offset = v.offset then [] else attempted p max rest
      | .failure _ _ => []
      | .endless _ => []

variable {p : Parser α β} {v w rest : View α} {b : β} {reason : String}
  {run other : List (β × View α)}

theorem GreedyRun.unique (h : GreedyRun p v run) (ho : GreedyRun p v other) : other = run := by
  induction h generalizing other with
  | failed hf =>
    cases ho with
    | failed _ => rfl
    | stuck hs _ => rw [hf] at hs; cases hs
    | onwards hs _ _ => rw [hf] at hs; cases hs
  | stuck hs he =>
    cases ho with
    | failed hf => rw [hs] at hf; cases hf
    | stuck hs' _ => rw [hs] at hs'; cases hs'; rfl
    | onwards hs' hn _ => rw [hs] at hs'; cases hs'; exact absurd he hn
  | onwards hs hn _ ih =>
    cases ho with
    | failed hf => rw [hs] at hf; cases hf
    | stuck hs' he => rw [hs] at hs'; cases hs'; exact absurd he hn
    | onwards hs' _ ho' =>
      rw [hs] at hs'
      cases hs'
      rw [ih ho']

/-! ## The loop and the greedy run -/

/-- The loop collects as much of the greedy run as its bound allows, and stops behind it. -/
theorem GreedyRun.attempts_eq (h : GreedyRun p v run) (max : Nat) :
    (p.attempts max v).value = .success ((run.take max).map (·.1)) (leftBy v (run.take max)) := by
  induction h generalizing max with
  | failed hf =>
    cases max with
    | zero => exact attempts_zero
    | succ max => exact attempts_failure hf
  | stuck hs he =>
    cases max with
    | zero => exact attempts_zero
    | succ max => rw [attempts_stuck hs he, List.take_succ_cons, List.take_nil]; rfl
  | onwards hs hn _ ih =>
    cases max with
    | zero => exact attempts_zero
    | succ max => rw [attempts_onwards hs hn, ih max, List.take_succ_cons]; rfl

theorem GreedyRun.attempts_all (h : GreedyRun p v run) {max : Nat} (hm : run.length ≤ max) :
    (p.attempts max v).value = .success (run.map (·.1)) (leftBy v run) := by
  rw [h.attempts_eq, List.take_of_length_le hm]

/-- The loop leaves the trace of its attempts and nothing else. -/
theorem attempts_events (p : Parser α β) (max : Nat) (v : View α) :
    (p.attempts max v).events = (p.attempted max v).flatMap fun w => (p.parse w).events := by
  induction max generalizing v with
  | zero => rfl
  | succ max ih =>
    rw [attempts, attempted, List.flatMap_cons, Traced.events_bind]
    cases (p.parse v).value with
    | failure reason rest => rfl
    | endless rest => rfl
    | success b rest =>
      dsimp only
      split
      · rfl
      · rw [Traced.events_bind, ih, Traced.events_pure, List.append_nil]

/-- Every value is that of one attempt. -/
theorem attempts_length_le {bs : List β} {max : Nat}
    (h : (p.attempts max v).value = .success bs rest) : bs.length ≤ (p.attempted max v).length := by
  induction max generalizing v bs with
  | zero => cases h; exact Nat.le_refl 0
  | succ max ih =>
    rw [attempted, List.length_cons]
    cases hp : (p.parse v).value with
    | failure reason next => rw [attempts_failure hp] at h; cases h; exact Nat.zero_le _
    | endless next => rw [attempts_endless hp] at h; cases h
    | success b next =>
      by_cases ho : next.offset = v.offset
      · rw [attempts_stuck hp ho] at h
        cases h
        exact Nat.succ_le_succ (Nat.zero_le _)
      · rw [attempts_onwards hp ho] at h
        obtain ⟨cs, hcs, rfl⟩ := Outcome.map_eq_success_iff.mp h
        simp only [if_neg ho]
        exact Nat.succ_le_succ (ih hcs)

/-- The loop returns exactly if all its attempts do. -/
theorem returns_attempts (p : Parser α β) (max : Nat) (v : View α) :
    (p.attempts max v).value.returns ↔ ∀ w ∈ p.attempted max v, (p.parse w).value.returns := by
  induction max generalizing v with
  | zero => exact iff_of_true rfl nofun
  | succ max ih =>
    rw [attempted, List.forall_mem_cons]
    cases hp : (p.parse v).value with
    | failure reason rest =>
      rw [attempts_failure hp]
      exact iff_of_true rfl ⟨rfl, nofun⟩
    | endless rest =>
      rw [attempts_endless hp]
      exact ⟨nofun, fun h => h.1⟩
    | success b rest =>
      have hb : (Outcome.success b rest).returns := rfl
      rw [and_iff_right hb]
      by_cases ho : rest.offset = v.offset
      · rw [attempts_stuck hp ho]
        simp only [if_pos ho]
        exact iff_of_true rfl nofun
      · rw [attempts_onwards hp ho, Outcome.returns_map]
        simp only [if_neg ho]
        exact ih rest

/-! ## Three ways to repeat -/

section Repetitions

variable (h : GreedyRun p v run)

include h

theorem GreedyRun.many_eq (hl : run.length ≤ maxIndex) :
    (p.many.parse v).value = .success (run.map (·.1)) (leftBy v run) := by
  rw [value_parse, value_many, h.attempts_all hl]

/-- One match is made before the loop, which goes on where the loop of `many` would. -/
theorem GreedyRun.many1_eq (hl : run.length ≤ maxIndex) :
    (p.many1.parse v).value =
      match run with
      | [] => .failure ("expected at least 1 of " ++ p.display) v
      | (b, rest) :: later => .success ⟨b, later.map (·.1)⟩ (leftBy rest later) := by
  rw [value_parse, value_many1]
  cases h with
  | failed hf =>
    rw [value_parse] at hf
    rw [hf]
  | stuck hs ho =>
    rw [value_parse] at hs
    simp only [hs, ho, ↓reduceIte]
    rfl
  | onwards hs ho hlater =>
    rw [value_parse] at hs
    rw [List.length_cons] at hl
    simp only [hs, ho, ↓reduceIte, hlater.attempts_all (Nat.le_of_succ_le hl), Outcome.map_success]

theorem GreedyRun.repeat_eq {q : Parser α (List β)} {lower upper : Nat}
    (hq : p.repeat lower upper = .ok q) (hle : lower ≤ upper) :
    let j := min upper run.length
    (q.parse v).value =
      if lower ≤ j then .success ((run.take j).map (·.1)) (leftBy v (run.take j))
      else .failure s!"expected at least {lower} of {p.display}, found {run.length}"
        (leftBy v run) := by
  intro j
  have htake : run.take upper = run.take j := List.take_eq_take_min
  have hlen : (run.take j).length = j := by
    rw [List.length_take]
    omega
  rw [value_parse, value_repeat hq, h.attempts_eq, htake]
  simp only [Outcome.flatMap, List.length_map, hlen]
  by_cases hj : lower ≤ j
  · rw [if_pos hj, if_neg (Nat.not_lt.mpr hj)]
  · -- The bound that cuts a run short is not below the one that it has to reach.
    have hk : j = run.length := by omega
    rw [if_neg hj, if_pos (Nat.lt_of_not_le hj), hk, List.take_length]

end Repetitions

theorem repeat_ok (p : Parser α β) {lower upper : Nat} (h : lower ≤ upper) :
    ∃ q, p.repeat lower upper = .ok q := by
  have hn : ¬ upper < lower := Nat.not_lt.mpr h
  rw [«repeat», if_neg hn]
  exact ⟨_, rfl⟩

/-! ## Progress -/

variable [Item α]

/-- On every suffix of `v` the matches of the parser leave suffixes of what they were given. -/
def LeavesSuffixes (p : Parser α β) (v : View α) : Prop :=
  ∀ ⦃w rest : View α⦄ ⦃b : β⦄, w.IsSuffix v → (p.parse w).value = .success b rest →
    rest.IsSuffix w

/-- On every suffix of `v` the parser returns, and what its matches leave is a suffix. -/
structure ReturnsSuffixes (p : Parser α β) (v : View α) : Prop where
  returns : ∀ ⦃w : View α⦄, w.IsSuffix v → (p.parse w).value.returns
  leaves : LeavesSuffixes p v

theorem Local.leavesSuffixes (h : Local p) (hv : v.Valid) : LeavesSuffixes p v :=
  fun _ _ _ hw hval => h.isSuffix (hw.valid hv) hval

theorem Returning.returnsSuffixes (h : Returning p) (hv : v.Valid) : ReturnsSuffixes p v :=
  ⟨fun _ hw => h.returns (hw.valid hv), h.isLocal.leavesSuffixes hv⟩

/-- There is a greedy run from every suffix, with one match more than positions at most: each match
but the last shortens what is left. -/
theorem ReturnsSuffixes.exists_greedyRun (h : ReturnsSuffixes p v) (hw : w.IsSuffix v) :
    ∃ run, GreedyRun p w run ∧ run.length ≤ w.len + 1 := by
  induction hn : w.len using Nat.strongRecOn generalizing w with
  | ind n ih =>
    subst hn
    have hret := h.returns hw
    cases hp : (p.parse w).value with
    | failure reason rest => exact ⟨[], .failed hp, Nat.zero_le _⟩
    | endless rest => rw [hp] at hret; cases hret
    | success b rest =>
      have hr := h.leaves hw hp
      by_cases ho : rest.offset = w.offset
      · exact ⟨[(b, rest)], .stuck hp ho, Nat.succ_le_succ (Nat.zero_le _)⟩
      · have hlt := hr.len_lt ho
        obtain ⟨run, hrun, hlen⟩ := ih rest.len hlt (hr.trans hw) rfl
        refine ⟨(b, rest) :: run, .onwards hp ho hrun, ?_⟩
        rw [List.length_cons]
        omega

section Progress

variable (h : LeavesSuffixes p v) (hw : w.IsSuffix v)

include h hw

theorem LeavesSuffixes.attempted_length_le (max : Nat) :
    (p.attempted max w).length ≤ w.len + 1 := by
  induction max generalizing w with
  | zero => exact Nat.zero_le _
  | succ max ih =>
    rw [attempted, List.length_cons]
    cases hp : (p.parse w).value with
    | failure reason rest => exact Nat.succ_le_succ (Nat.zero_le _)
    | endless rest => exact Nat.succ_le_succ (Nat.zero_le _)
    | success b rest =>
      dsimp only
      split
      · exact Nat.succ_le_succ (Nat.zero_le _)
      · next ho =>
        have hr := h hw hp
        have hlt := hr.len_lt ho
        have hle := ih (hr.trans hw)
        omega

/-- The parser is run on suffixes of the input only, so that repetitions inside it have no more room
than the one around them. -/
theorem LeavesSuffixes.isSuffix_of_attempted {max : Nat} {u : View α}
    (hu : u ∈ p.attempted max w) : u.IsSuffix v := by
  induction max generalizing w with
  | zero => cases hu
  | succ max ih =>
    rcases List.mem_cons.mp hu with rfl | hu
    · exact hw
    · cases hp : (p.parse w).value with
      | failure reason rest => rw [hp] at hu; cases hu
      | endless rest => rw [hp] at hu; cases hu
      | success b rest =>
        rw [hp] at hu
        dsimp only at hu
        split at hu
        · cases hu
        · exact ih ((h hw hp).trans hw) hu

/-- Bounds beyond the number of positions are all alike: no run of the loop gets there. -/
theorem LeavesSuffixes.attempts_congr {max other : Nat} (hm : w.len < max) (ho : w.len < other) :
    p.attempts max w = p.attempts other w := by
  induction max generalizing w other with
  | zero => omega
  | succ max ih =>
    obtain ⟨other, rfl⟩ : ∃ n, other = n + 1 := ⟨other - 1, by omega⟩
    rw [attempts, attempts]
    refine Traced.bind_congr ?_
    cases hp : (p.parse w).value with
    | failure reason rest => rfl
    | endless rest => rfl
    | success b rest =>
      dsimp only
      split
      · rfl
      · next hne =>
        have hr := h hw hp
        have hlt := hr.len_lt hne
        have he : p.attempts max rest = p.attempts other rest :=
          ih (hr.trans hw) (by omega) (by omega)
        rw [he]

end Progress

/-! ## Agreement -/

/-- The repetitions of a parser are read off from its greedy run: `many` collects all of it, `many1`
the same if there is any, and `repeat` as much as its upper bound allows, if that is enough. The
greatest index bounds `many`; a view of text is never that long, as it takes up memory. -/
theorem repetitions_eq_greedyRun (hv : v.Valid) (hlen : v.len < maxIndex)
    (hp : ReturnsSuffixes p v) :
    ∃ run, GreedyRun p v run ∧ (∀ other, GreedyRun p v other → other = run) ∧
      (p.many.parse v).value = .success (run.map (·.1)) (leftBy v run) ∧
      (match (p.parse v).value with
        | .success _ _ => ∃ items, (p.many1.parse v).value = .success items (leftBy v run) ∧
            items.toList = run.map (·.1)
        | .failure _ _ =>
            (p.many1.parse v).value = .failure ("expected at least 1 of " ++ p.display) v
        | .endless _ => False) ∧
      ∀ lower upper, lower ≤ upper → ∃ q, p.repeat lower upper = .ok q ∧
        let j := min upper run.length
        (q.parse v).value =
          if lower ≤ j then .success ((run.take j).map (·.1)) (leftBy v (run.take j))
          else .failure s!"expected at least {lower} of {p.display}, found {run.length}"
            (leftBy v run) := by
  obtain ⟨run, h, hle⟩ := hp.exists_greedyRun hv.isSuffix_refl
  have hl : run.length ≤ maxIndex := by omega
  refine ⟨run, h, fun other ho => h.unique ho, h.many_eq hl, ?_, fun lower upper hle => ?_⟩
  · rw [h.many1_eq hl]
    cases h with
    | failed hf => rw [hf]
    | stuck hs _ => rw [hs]; exact ⟨_, rfl, rfl⟩
    | onwards hs _ _ => rw [hs]; exact ⟨_, rfl, rfl⟩
  · obtain ⟨q, hq⟩ := repeat_ok p hle
    exact ⟨q, hq, h.repeat_eq hq hle⟩

/-- Runs of a letter, which may be empty: one that consumes, and one that does not and is the last.
A repetition of at most one takes the first. -/
theorem repetitions_eq_greedyRun_of_letters :
    let v : View Char := ⟨⟨0, ['é', 'x', 'x', 'y']⟩, 2, 3⟩
    let p : Parser Char (List Char) := (satisfy "x" (· == 'x')).many
    v.Valid ∧ v.len < maxIndex ∧ ReturnsSuffixes p v ∧
      ∃ run, GreedyRun p v run ∧ run.map (·.1) = [['x', 'x'], []] ∧
        ∃ q, p.repeat 0 1 = .ok q ∧ (q.parse v).value.value? = some [['x', 'x']] := by
  intro v p
  have hv : v.Valid :=
    ⟨⟨['é'], ['x', 'x', 'y'], rfl, by decide⟩, ⟨['é', 'x', 'x', 'y'], [], rfl, by decide⟩⟩
  have hlen : v.len < maxIndex := by decide
  have hs : Settled p := .many (.satisfy "x" _)
  have hp := (hs.returning trivial).returnsSuffixes hv
  obtain ⟨run, hrun, -, hmany, -, hrepeat⟩ := repetitions_eq_greedyRun hv hlen hp
  have hvalue : (p.many.parse v).value.value? = some [['x', 'x'], []] := by decide
  rw [hmany] at hvalue
  have hmap : run.map (·.1) = [['x', 'x'], []] := Option.some.inj hvalue
  have hl : run.length = 2 := by
    rw [← List.length_map (·.1), hmap]
    rfl
  obtain ⟨q, hq, hparse⟩ := hrepeat 0 1 (by decide)
  refine ⟨hv, hlen, hp, run, hrun, hmap, q, hq, ?_⟩
  simp only [hl] at hparse
  rw [hparse]
  show some ((run.take 1).map (·.1)) = _
  rw [List.map_take, hmap]
  rfl

/-! ## Termination -/

/-- The repetition of a built parser ends by itself. The loop runs its parser on suffixes of the
view, at most once more than there are positions, and it collects no more values than that; so a
bound beyond the number of positions never stops it. It returns if its attempts do. Every parse
returns if the pipelines in the parser come to an end on the values that they get, and then the
greedy run is collected as a whole. -/
theorem repetition_ends {p : Parser α β} (hp : Built p) {v : View α} (hv : v.Valid) :
    (∀ max,
      (p.attempts max v).events = ((p.attempted max v).flatMap fun w => (p.parse w).events) ∧
      (∀ w ∈ p.attempted max v, w.IsSuffix v) ∧
      (p.attempted max v).length ≤ v.len + 1 ∧
      (∀ values rest, (p.repeatedly max v).value = .success values rest →
        values.length ≤ v.len + 1) ∧
      ((p.repeatedly max v).value.returns ↔
        ∀ w ∈ p.attempted max v, (p.parse w).value.returns) ∧
      ∀ other, v.len < max → v.len < other → p.repeatedly max v = p.repeatedly other v) ∧
    (Settled p → (p.parse v).value.returns ∧
      ∃ run, GreedyRun p v run ∧ run.length ≤ v.len + 1 ∧
        ∀ max, v.len < max →
          (p.repeatedly max v).value = .success (run.map (·.1)) (leftBy v run)) := by
  have h := hp.local.leavesSuffixes hv
  have hr := hv.isSuffix_refl
  constructor
  · intro max
    have hle := h.attempted_length_le hr max
    refine ⟨attempts_events p max v, fun w hw => h.isSuffix_of_attempted hr hw, hle, ?_, ?_, ?_⟩
    · intro values rest hs
      rw [value_repeatedly] at hs
      exact Nat.le_trans (attempts_length_le hs) hle
    · rw [value_repeatedly]
      exact returns_attempts p max v
    · intro other hm ho
      rw [repeatedly, repeatedly, h.attempts_congr hr hm ho]
  · intro hs
    have hreturning := hs.returning trivial
    obtain ⟨run, hrun, hle⟩ := (hreturning.returnsSuffixes hv).exists_greedyRun hr
    refine ⟨hreturning.returns hv, run, hrun, hle, fun max hm => ?_⟩
    rw [value_repeatedly, hrun.attempts_all (by omega)]

/-- A repetition inside a repetition, whose third match consumes nothing, and the values of that in a
pipeline. -/
theorem repetition_ends_nested :
    let v : View Char := ⟨⟨0, ['é', 'x', 'y', 'x']⟩, 2, 3⟩
    let p : Parser Char (List Char × List Char) :=
      (satisfy "x" (· == 'x')).many.then (satisfy "y" (· == 'y')).many
    let distinct : Transducer Unit (List Char × List Char) (List Char × List Char) := .unique
    let q : Parser Char (List (List Char × List Char)) := p.many.pipe distinct
    Built p ∧ v.Valid ∧ (p.attempted maxIndex v).length = 3 ∧
      p.repeatedly maxIndex v = p.repeatedly 4 v ∧
      Built q ∧ Settled q ∧ (q.parse v).value.returns := by
  intro v p distinct q
  have hv : v.Valid :=
    ⟨⟨['é'], ['x', 'y', 'x'], rfl, by decide⟩, ⟨['é', 'x', 'y', 'x'], [], rfl, by decide⟩⟩
  have hb : Built p := .then (.many (.satisfy "x" _)) (.many (.satisfy "y" _))
  have hsp : Settled p := .then (.many (.satisfy "x" _)) (.many (.satisfy "y" _))
  have hq : Built q := .pipe _ distinct (.many hb) nofun
  have hsq : Settled q := settled_pipeItems (.many hsp) (fun items => ⟨items, rfl⟩) trivial
  obtain ⟨-, -, -, -, -, hbound⟩ := (repetition_ends hb hv).1 maxIndex
  exact ⟨hb, hv, by decide, hbound 4 (by decide) (by decide), hq, hsq,
    ((repetition_ends hq hv).2 hsq).1⟩

/-- The pipeline goes through zeros for ever, and the parse of a single letter never returns. -/
theorem repetition_ends_not_with_endless_pipe :
    let v : View Char := .ofSource ⟨0, ['x']⟩
    let zeros : Transducer Unit Char Nat := .flatMap "zeros" fun _ => Items.endless fun _ => 0
    let p : Parser Char (List Nat) := (any : Parser Char Char).many.pipe zeros
    Built p ∧ v.Valid ∧ (p.parse v).value.returns = false := by
  intro v zeros p
  have hb : Built p := .pipe _ zeros (.many .any) nofun
  have hcollect : zeros.collect ['x'] = none := Op.collect_eq (.flatMap ⟨"zeros"⟩ _) ['x']
  refine ⟨hb, valid_ofSource _, ?_⟩
  -- the letter is found, and then the zeros are collected
  show (Outcome.ofValue? (zeros.collect ['x']) (v.advance 1) : Outcome Char (List Nat)).returns = _
  rw [hcollect]
  rfl

end Parser
end ParseFlow
