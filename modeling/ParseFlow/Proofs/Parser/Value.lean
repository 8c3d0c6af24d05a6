import ParseFlow.Parser.Text
import ParseFlow.Proofs.View.Place
import Mathlib.Data.List.Induction

/-!
# Outcomes without their traces

What each stage and combinator makes of a view, in terms of the outcomes of the parsers it is given.
The matchers that are given no parsers decide by the window alone: `Recognises` names the value and
the items that make it up.
-/
namespace ParseFlow.Parser

open Text Pipeline

variable {α β γ δ : Type}

/-! ## Stages -/

theorem value_onSuccess (x : Traced (Outcome α β)) (f : β → View α → Traced (Outcome α γ)) :
    (x.onSuccess f).value = x.value.flatMap fun b rest => (f b rest).value := by
  obtain ⟨events, outcome⟩ := x
  cases outcome <;> rfl

theorem value_parse (p : Parser α β) (v : View α) : (p.parse v).value = (p.matcher v).value := rfl

theorem value_map (p : Parser α β) (label : String) (f : β → γ) (v : View α) :
    ((p.map label f).matcher v).value = (p.matcher v).value.map f := rfl

theorem value_mapTraced (p : Parser α β) (label : String) (f : β → Traced γ) (v : View α) :
    ((p.mapTraced label f).matcher v).value = (p.matcher v).value.map fun b => (f b).value :=
  (value_onSuccess _ _).trans (Outcome.flatMap_success _ fun b => (f b).value)

theorem value_flatMap (p : Parser α β) (label : String) (f : β → Parser α γ) (v : View α) :
    ((p.flatMap label f).matcher v).value =
      (p.matcher v).value.flatMap fun b rest => ((f b).matcher rest).value :=
  value_onSuccess _ _

theorem value_filter (p : Parser α β) (label : String) (keep : β → Bool) (v : View α) :
    ((p.filter label keep).matcher v).value = (p.matcher v).value.flatMap fun b rest =>
      if keep b then .success b rest else .failure (Stage.filter ⟨label⟩).display v := by
  rw [filter, value_onSuccess]
  congr
  funext b rest
  split <;> rfl

theorem value_pipeItems {ω : Type} (p : Parser α β) (items : β → Items γ) (t : Transducer ω γ δ)
    (v : View α) : ((p.pipeItems items t).matcher v).value =
      (p.matcher v).value.flatMap fun b => .ofValue? (t.collect (items b)) := rfl

theorem value_thread {ω : Type} (p : Parser α β) (t : Transducer ω β γ) (v : View α) :
    ((p.thread t).matcher v).value = (p.matcher v).value.flatMap fun b rest =>
      match t.applyValue b with
      | some (.ok result) => .success result rest
      | some (.error stage) => .failure stage.display v
      | none => .endless rest := by
  rw [thread, value_onSuccess]
  congr
  funext b rest
  cases t.applyValue b with
  | none => rfl
  | some result => cases result <;> rfl

/-! ## Combinators -/

theorem value_then (p : Parser α β) (q : Parser α γ) (v : View α) :
    ((p.then q).matcher v).value = (p.matcher v).value.flatMap fun b rest =>
      (q.matcher rest).value.map fun c => (b, c) :=
  value_onSuccess _ _

theorem value_precededBy (core : Parser α β) (opening : Parser α γ) (v : View α) :
    ((core.precededBy opening).matcher v).value = ((opening.then core).matcher v).value.map (·.2) :=
  rfl

theorem value_followedBy (core : Parser α β) (closing : Parser α γ) (v : View α) :
    ((core.followedBy closing).matcher v).value = ((core.then closing).matcher v).value.map (·.1) :=
  rfl

theorem value_between (core : Parser α β) (opening : Parser α γ) (closing : Parser α δ)
    (v : View α) : ((core.between opening closing).matcher v).value =
      (((core.precededBy opening).followedBy closing).matcher v).value := rfl

theorem value_pair (first : Parser α β) (second : Parser α γ) (v : View α) :
    ((pair first second).matcher v).value = ((first.then second).matcher v).value := rfl

theorem value_triple (first : Parser α β) (second : Parser α γ) (third : Parser α δ)
    (v : View α) : ((triple first second third).matcher v).value =
      (((first.then second).then third).matcher v).value.map fun v => (v.1.1, v.1.2, v.2) := rfl

/-! ## Repetition -/

section Attempts

variable {p : Parser α β} {v rest : View α} {b : β} {reason : String} {max : Nat}

theorem attempts_zero : (p.attempts 0 v).value = .success [] v := rfl

theorem attempts_failure (h : (p.matcher v).value = .failure reason rest) :
    (p.attempts (max + 1) v).value = .success [] v := by
  simp only [attempts, Traced.value_bind, value_parse, h, Traced.value_pure]

/-- A success that consumes nothing is kept and ends the repetition. -/
theorem attempts_stuck (h : (p.matcher v).value = .success b rest) (ho : rest.offset = v.offset) :
    (p.attempts (max + 1) v).value = .success [b] rest := by
  simp only [attempts, Traced.value_bind, value_parse, h, ho, ↓reduceIte, Traced.value_pure]

theorem attempts_onwards (h : (p.matcher v).value = .success b rest) (ho : rest.offset ≠ v.offset) :
    (p.attempts (max + 1) v).value = (p.attempts max rest).value.map (b :: ·) := by
  simp only [attempts, Traced.value_bind, value_parse, h, ho, ↓reduceIte, Traced.value_pure]

theorem attempts_endless (h : (p.matcher v).value = .endless rest) :
    (p.attempts (max + 1) v).value = .endless rest := by
  simp only [attempts, Traced.value_bind, value_parse, h, Traced.value_pure]

end Attempts

/-- The loop does not fail. -/
theorem attempts_isFailure (p : Parser α β) (max : Nat) (v : View α) :
    (p.attempts max v).value.isFailure = false := by
  induction max generalizing v with
  | zero => rfl
  | succ max ih =>
    cases hp : (p.matcher v).value with
    | failure reason rest => rw [attempts_failure hp]; rfl
    | endless rest => rw [attempts_endless hp]; rfl
    | success b rest =>
      by_cases ho : rest.offset = v.offset
      · rw [attempts_stuck hp ho]
        rfl
      · rw [attempts_onwards hp ho, Outcome.isFailure_map, ih]

theorem value_repeatedly (p : Parser α β) (max : Nat) (v : View α) :
    (p.repeatedly max v).value = (p.attempts max v).value :=
  (value_onSuccess _ _).trans (Outcome.flatMap_success_self _)

theorem value_many (p : Parser α β) (v : View α) :
    (p.many.matcher v).value = (p.attempts maxIndex v).value :=
  p.value_repeatedly maxIndex v

theorem value_many1 (p : Parser α β) (v : View α) :
    (p.many1.matcher v).value =
      match (p.matcher v).value with
      | .success b rest =>
        if rest.offset = v.offset then .success ⟨b, []⟩ rest
        else (p.attempts maxIndex rest).value.map (⟨b, ·⟩)
      | .failure _ _ => .failure ("expected at least 1 of " ++ p.display) v
      | .endless rest => .endless rest := by
  simp only [many1, ofForm, Traced.value_bind, value_parse]
  cases (p.matcher v).value with
  | success b rest =>
    dsimp only
    split
    · rfl
    · rw [Traced.value_bind, value_repeatedly]
      rfl
  | failure reason rest => rfl
  | endless rest => rfl

/-- A repetition that could be built runs up to its upper bound and checks the lower one at the
end. -/
theorem value_repeat {p : Parser α β} {q : Parser α (List β)} {min max : Nat}
    (h : p.repeat min max = .ok q) (v : View α) :
    (q.matcher v).value = (p.attempts max v).value.flatMap fun bs rest =>
      if bs.length < min then
        .failure s!"expected at least {min} of {p.display}, found {bs.length}" rest
      else .success bs rest := by
  unfold «repeat» at h
  split at h
  · cases h
  · cases h
    rw [ofForm, value_onSuccess, value_repeatedly]
    congr
    funext bs rest
    split <;> rfl

/-! ## Sequences -/

theorem value_list_nil (v : View α) :
    ((list ([] : List (Parser α β))).matcher v).value = .success [] v := rfl

/-- One more parser goes on where those before it stopped and adds its value at the end. -/
theorem value_list_concat (parsers : List (Parser α β)) (p : Parser α β) (v : View α) :
    ((list (parsers ++ [p])).matcher v).value =
      ((list parsers).matcher v).value.flatMap fun bs rest =>
        (p.matcher rest).value.map fun b => bs ++ [b] := by
  simp only [list, redescribe, List.foldl_append, List.foldl_cons, List.foldl_nil, value_map,
    value_then]
  simp only [Outcome.map_flatMap, Outcome.map_map]

/-- A tuple that could be built packs the values of the list of its parsers. -/
theorem value_tuple {n : Nat} {parsers : List (Parser α β)} {q : Parser α (Vector β n)}
    (h : tuple n parsers = .ok q) (v : View α) :
    (q.matcher v).value = ((list parsers).matcher v).value.flatMap fun bs rest =>
      if h : bs.length = n then .success ⟨bs.toArray, by simpa using h⟩ rest
      else .failure s!"expected {n} values, found {bs.length}" rest := by
  unfold tuple at h
  split at h
  · cases h
  · cases h
    rfl

end ParseFlow.Parser
