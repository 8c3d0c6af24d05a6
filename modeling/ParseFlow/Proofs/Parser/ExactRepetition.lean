import ParseFlow.Proofs.Parser.Repetition
import ParseFlow.Proofs.Parser.Sequencing

/-!
# Exact repetition

A repetition with one number for both of its bounds, against a list of as many copies of the parser.
Both run the parser again where it last stopped. The repetition ends behind a match that consumes
nothing, the list does not, so that the two agree as long as no match but the last consumes nothing.
-/
namespace ParseFlow.Parser

open View

variable {α β : Type} {p : Parser α β} {v mid rest last : View α} {b : β} {bs : List β} {n k : Nat}

/-- Matches of one parser in a row, each where the one before it stopped. -/
def Copies (p : Parser α β) (n : Nat) (v : View α) (bs : List β) (last : View α) : Prop :=
  Row (List.replicate n p) v bs last

/-- Of `n` matches in a row from `v`, each but the last consumes something. -/
def KeepsMoving (p : Parser α β) (n : Nat) (v : View α) : Prop :=
  ∀ k bs mid b rest, k + 1 < n → Copies p k v bs mid →
    (p.parse mid).value = .success b rest → rest.offset ≠ mid.offset

/-! ## From the front -/

theorem copies_zero : Copies p 0 v bs last ↔ bs = [] ∧ last = v := by
  constructor
  · rintro ⟨⟩
    exact ⟨rfl, rfl⟩
  · rintro ⟨rfl, rfl⟩
    exact .nil

theorem copies_succ : Copies p (n + 1) v bs last ↔
    ∃ b rest cs, (p.parse v).value = .success b rest ∧ Copies p n rest cs last ∧ bs = b :: cs := by
  constructor
  · rintro (_ | ⟨hp, hr⟩)
    exact ⟨_, _, _, hp, hr, rfl⟩
  · rintro ⟨b, rest, cs, hp, hr, rfl⟩
    exact .cons hp hr

theorem copies_of_success (h : (p.parse v).value = .success b rest) :
    Copies p (n + 1) v bs last ↔ ∃ cs, Copies p n rest cs last ∧ bs = b :: cs := by
  rw [copies_succ]
  constructor
  · rintro ⟨c, next, cs, hc, hcs⟩
    rw [h] at hc
    cases hc
    exact ⟨cs, hcs⟩
  · rintro ⟨cs, hcs⟩
    exact ⟨b, rest, cs, h, hcs⟩

theorem keepsMoving_one : KeepsMoving p 1 v := by
  intro k bs mid b rest hk
  omega

/-- The first of several matches has to consume something, and the others are as they were. -/
theorem keepsMoving_of_success (h : (p.parse v).value = .success b rest) :
    KeepsMoving p (n + 2) v ↔ rest.offset ≠ v.offset ∧ KeepsMoving p (n + 1) rest := by
  constructor
  · intro hm
    refine ⟨hm 0 [] v b rest (by omega) .nil h, fun k bs mid c next hk hr => ?_⟩
    exact hm (k + 1) (b :: bs) mid c next (by omega) ((copies_of_success h).mpr ⟨bs, hr, rfl⟩)
  · rintro ⟨ho, hm⟩ k bs mid c next hk hr hc
    cases k with
    | zero =>
      obtain ⟨-, rfl⟩ := copies_zero.mp hr
      rw [h] at hc
      cases hc
      exact ho
    | succ k =>
      obtain ⟨cs, hcs, -⟩ := (copies_of_success h).mp hr
      exact hm k cs mid c next (by omega) hcs hc

/-! ## The loop -/

/-- The loop collects no more values than its bound allows. -/
theorem attempts_length_le_max (h : (p.attempts n v).value = .success bs last) : bs.length ≤ n := by
  induction n generalizing v bs with
  | zero => cases h; exact Nat.le_refl 0
  | succ n ih =>
    cases hp : (p.parse v).value with
    | failure reason rest => rw [attempts_failure hp] at h; cases h; exact Nat.zero_le _
    | endless rest => rw [attempts_endless hp] at h; cases h
    | success b rest =>
      by_cases ho : rest.offset = v.offset
      · rw [attempts_stuck hp ho] at h
        cases h
        exact Nat.succ_le_succ (Nat.zero_le n)
      · rw [attempts_onwards hp ho] at h
        obtain ⟨cs, hcs, rfl⟩ := Outcome.map_eq_success_iff.mp h
        exact Nat.succ_le_succ (ih hcs)

/-- The loop makes all the matches that its bound allows exactly if these are matches in a row of
which each but the last consumes something. -/
theorem attempts_eq_iff : bs.length = n ∧ (p.attempts n v).value = .success bs last ↔
    Copies p n v bs last ∧ KeepsMoving p n v := by
  induction n generalizing v bs with
  | zero =>
    have hm : KeepsMoving p 0 v := fun k _ _ _ _ hk => by omega
    rw [copies_zero, attempts_zero, Outcome.success.injEq, List.length_eq_zero_iff]
    grind
  | succ n ih =>
    cases hp : (p.parse v).value with
    | failure reason rest =>
      rw [attempts_failure hp, copies_succ, hp]
      grind
    | endless rest =>
      rw [attempts_endless hp, copies_succ, hp]
      grind
    | success b rest =>
      rw [copies_of_success hp]
      by_cases ho : rest.offset = v.offset
      · rw [attempts_stuck hp ho]
        cases n with
        | zero =>
          have hm := @keepsMoving_one _ _ p v
          simp only [copies_zero]
          grind
        | succ n =>
          rw [keepsMoving_of_success hp]
          grind
      · rw [attempts_onwards hp ho]
        have hm : KeepsMoving p (n + 1) v ↔ KeepsMoving p n rest := by
          cases n with
          | zero => exact ⟨fun _ k _ _ _ _ hk => by omega, fun _ => keepsMoving_one⟩
          | succ n => rw [keepsMoving_of_success hp, and_iff_right ho]
        rw [hm]
        constructor
        · rintro ⟨hl, ha⟩
          obtain ⟨cs, hcs, rfl⟩ := Outcome.map_eq_success_iff.mp ha
          have h := ih.mp ⟨Nat.succ.inj hl, hcs⟩
          exact ⟨⟨cs, h.1, rfl⟩, h.2⟩
        · rintro ⟨⟨cs, hcs, rfl⟩, hk⟩
          obtain ⟨hl, ha⟩ := ih.mpr ⟨hcs, hk⟩
          rw [ha, List.length_cons, hl]
          exact ⟨rfl, rfl⟩

/-- Behind the first match that consumes nothing the loop ends, whatever its bound. -/
theorem attempts_of_stuck (hc : Copies p k v bs mid) (hm : KeepsMoving p (k + 1) v)
    (hp : (p.parse mid).value = .success b rest) (ho : rest.offset = mid.offset) (hn : k < n) :
    (p.attempts n v).value = .success (bs ++ [b]) rest := by
  induction k generalizing v bs n with
  | zero =>
    obtain ⟨rfl, rfl⟩ := copies_zero.mp hc
    obtain ⟨n, rfl⟩ := Nat.exists_eq_add_of_lt hn
    rw [attempts_stuck hp ho]
    rfl
  | succ k ih =>
    obtain ⟨c, next, cs, hs, hcs, rfl⟩ := copies_succ.mp hc
    obtain ⟨hmove, hlater⟩ := (keepsMoving_of_success hs).mp hm
    obtain ⟨n, rfl⟩ : ∃ m, n = m + 1 := ⟨n - 1, by omega⟩
    rw [attempts_onwards hs hmove, ih hcs hlater (by omega)]
    rfl

/-! ## Agreement with a list of copies -/

/-- A repetition of exactly `n` can always be built. It succeeds if a list of `n` copies does and no
match but the last consumes nothing, with the same values and the same rest, and on no other view.
An earlier match that consumes nothing ends the repetition, which fails there. -/
theorem repeat_exactly (p : Parser α β) (n : Nat) (v : View α) : ∃ q, p.repeat n n = .ok q ∧
    (∀ bs last, (q.parse v).value = .success bs last ↔
      ((list (List.replicate n p)).parse v).value = .success bs last ∧ KeepsMoving p n v) ∧
    ∀ k bs mid b rest, k + 1 < n → ((list (List.replicate k p)).parse v).value = .success bs mid →
      KeepsMoving p (k + 1) v → (p.parse mid).value = .success b rest → rest.offset = mid.offset →
      (q.parse v).value = .failure s!"expected at least {n} of {p.display}, found {k + 1}" rest := by
  obtain ⟨q, hq⟩ := repeat_ok p (Nat.le_refl n)
  refine ⟨q, hq, fun bs last => ?_, fun k bs mid b rest hk hc hm hp ho => ?_⟩
  · rw [value_parse, value_parse, value_repeat hq, list_eq_success_iff, ← Copies, ← attempts_eq_iff]
    cases ha : (p.attempts n v).value with
    | failure reason rest => simp [Outcome.flatMap]
    | endless rest => simp [Outcome.flatMap]
    | success found stop =>
      have hle := attempts_length_le_max ha
      rw [Outcome.flatMap]
      by_cases hl : found.length < n
      · rw [if_pos hl]
        simp only [reduceCtorEq, false_iff]
        rintro ⟨hn, ⟨⟩⟩
        exact absurd (hn ▸ hl) (Nat.lt_irrefl n)
      · rw [if_neg hl]
        constructor
        · rintro ⟨⟩
          exact ⟨by omega, rfl⟩
        · rintro ⟨-, ⟨⟩⟩
          rfl
  · rw [value_parse, list_eq_success_iff] at hc
    rw [value_parse, value_repeat hq, attempts_of_stuck hc hm hp ho (by omega), Outcome.flatMap,
      List.length_append, Row.length_eq hc, List.length_replicate, List.length_singleton, if_pos hk]

/-- At the end of the input the end can be matched twice in a row, and is matched once only by a
repetition of exactly two. -/
theorem repeat_exactly_fails_at_end :
    let v : View Char := .ofSource ⟨0, []⟩
    let p : Parser Char Unit := «end»
    Built p ∧ v.Valid ∧ ((list (List.replicate 2 p)).parse v).value = .success [(), ()] v ∧
      ∃ q, p.repeat 2 2 = .ok q ∧
        (q.parse v).value = .failure "expected at least 2 of end(), found 1" v := by
  intro v p
  exact ⟨.end, valid_ofSource _, rfl, _, rfl, rfl⟩

end ParseFlow.Parser
