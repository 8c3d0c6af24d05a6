import Mathlib.Data.List.Basic
import ParseFlow.Proofs.Regex.Searching

/-!
# All matches in a text

Each match that is reported is the one preferred where it begins, the matches do not overlap, and a
match that is not reported begins inside one that is. This is kept from the end of the text back to
its start.
-/
namespace ParseFlow.Regex.Expr

/-- The match that is preferred behind the first `i` characters of the text. -/
def foundAt (e : Expr) (text : List Char) (i : Nat) : Option (Nat × Slots) :=
  e.preferred (text.take i).getLast? i (text.drop i)

/-- The match that is reported at a position. -/
def reportedAt (e : Expr) (before : Option Char) (position resume : Nat) (lastStop : Option Nat)
    (text : List Char) : Option Match :=
  if position < resume then none
  else
    match e.preferred before position text with
    | some (stop, slots) =>
      if stop = position && lastStop == some position then none
      else some ⟨position, stop, slots⟩
    | none => none

/-- Where the next match may begin, once it is known whether one is reported at a position. -/
def resumeAfter (position resume : Nat) : Option Match → Nat
  | some m => max resume (max m.stop (position + 1))
  | none => resume

/-- What the matches are that are reported from a position on, and not before `resume`. -/
structure Reports (e : Expr) (text : List Char) (position resume : Nat) (ms : List Match) :
    Prop where
  found : ∀ m ∈ ms, resume ≤ m.start ∧ e.foundAt text m.start = some (m.stop, m.slots)
  apart : ms.Pairwise (·.stop ≤ ·.start)
  covers : ∀ i stop slots, position ≤ i → i ≤ text.length → i < stop →
    e.foundAt text i = some (stop, slots) →
      i < resume ∨ ⟨i, stop, slots⟩ ∈ ms ∨ ∃ m ∈ ms, m.start < i ∧ i < m.stop

section Matches

variable {e : Expr} {before : Option Char} {position resume : Nat} {lastStop : Option Nat}
  {front rest text : List Char} {m : Match} {ms : List Match}

theorem foundAt_length :
    e.foundAt (front ++ rest) front.length = e.preferred front.getLast? front.length rest := by
  rw [foundAt, List.take_left, List.drop_left]

/-- What is found behind `i` characters is a match there. -/
theorem fits_of_foundAt {i stop : Nat} {slots : Slots} (h : e.foundAt text i = some (stop, slots)) :
    ∃ taken left, text.drop i = taken ++ left ∧ stop = i + taken.length ∧
      e.Fits (text.take i).getLast? taken left := by
  rcases preferredFrom_spec (text.drop i) (text.take i).getLast? [⟨e, []⟩] i none with
    ⟨n, found, ⟨taken, left, hsplit, rfl, other, ho, hf⟩, hp⟩ | ⟨-, hp⟩
  · rw [foundAt, preferred, hp] at h
    cases h
    obtain rfl := List.mem_singleton.mp ho
    exact ⟨taken, left, hsplit, rfl, hf⟩
  · rw [foundAt, preferred, hp] at h
    cases h

theorem reportedAt_eq_some (h : reportedAt e before position resume lastStop text = some m) :
    resume ≤ position ∧ m.start = position ∧
      e.preferred before position text = some (m.stop, m.slots) := by
  rw [reportedAt] at h
  split at h
  · cases h
  · next hr =>
    split at h
    · next hp =>
      split at h
      · cases h
      · cases h
        exact ⟨Nat.le_of_not_lt hr, rfl, hp⟩
    · cases h

/-- A match that is not empty is reported, unless the match before goes on. -/
theorem reportedAt_of_preferred {stop : Nat} {slots : Slots} (hr : resume ≤ position)
    (hp : e.preferred before position text = some (stop, slots)) (hs : position < stop) :
    reportedAt e before position resume lastStop text = some ⟨position, stop, slots⟩ := by
  have hne : ¬ stop = position := Nat.ne_of_gt hs
  simp [reportedAt, hp, Nat.not_lt.mpr hr, hne]

theorem reports_nil (h : text.length < position) : Reports e text position resume [] where
  found := nofun
  apart := .nil
  covers := fun i stop slots hp hi => by omega

/-- One position back. -/
theorem Reports.step {reported : Option Match}
    (hreported : reportedAt e front.getLast? front.length resume lastStop rest = reported)
    (h : Reports e (front ++ rest) (front.length + 1)
      (resumeAfter front.length resume reported) ms) :
    Reports e (front ++ rest) front.length resume (reported.toList ++ ms) := by
  cases reported with
  | none =>
    refine ⟨h.found, h.apart, fun i stop slots hi hlen hs hf => ?_⟩
    rcases Nat.eq_or_lt_of_le hi with rfl | hi
    · left
      rw [foundAt_length] at hf
      by_contra hr
      rw [reportedAt_of_preferred (Nat.le_of_not_lt hr) hf hs] at hreported
      cases hreported
    · exact h.covers i stop slots hi hlen hs hf
  | some m =>
    obtain ⟨hr, hstart, hp⟩ := reportedAt_eq_some hreported
    have hlater : ∀ other ∈ ms, resume ≤ other.start ∧ m.stop ≤ other.start := by
      intro other ho
      have hle := (h.found other ho).1
      rw [resumeAfter] at hle
      omega
    constructor
    · refine List.forall_mem_cons.mpr ⟨?_, fun other ho => ?_⟩
      · rw [hstart, foundAt_length]
        exact ⟨hr, hp⟩
      · exact ⟨(hlater other ho).1, (h.found other ho).2⟩
    · exact List.pairwise_cons.mpr ⟨fun other ho => (hlater other ho).2, h.apart⟩
    · intro i stop slots hi hlen hs hf
      rcases Nat.eq_or_lt_of_le hi with rfl | hi
      · rw [foundAt_length, hp] at hf
        cases hf
        rw [← hstart]
        exact .inr (.inl List.mem_cons_self)
      · rcases h.covers i stop slots hi hlen hs hf with hbefore | hmem | ⟨other, ho, hin⟩
        · -- What may not begin before `m` ends begins inside it.
          rw [resumeAfter] at hbefore
          by_cases hi' : i < resume
          · exact .inl hi'
          · exact .inr (.inr ⟨m, List.mem_cons_self, by omega, by omega⟩)
        · exact .inr (.inl (List.mem_cons_of_mem _ hmem))
        · exact .inr (.inr ⟨other, List.mem_cons_of_mem _ ho, hin⟩)

theorem Reports.disjoint {other : Match} (h : Reports e text position resume ms) (hm : m ∈ ms)
    (ho : other ∈ ms) : m = other ∨ m.stop ≤ other.start ∨ other.stop ≤ m.start := by
  obtain ⟨i, hi, rfl⟩ := List.mem_iff_getElem.mp hm
  obtain ⟨j, hj, rfl⟩ := List.mem_iff_getElem.mp ho
  have hapart := List.pairwise_iff_getElem.mp h.apart
  rcases Nat.lt_trichotomy i j with hij | rfl | hji
  · exact .inr (.inl (hapart i j hi hj hij))
  · exact .inl rfl
  · exact .inr (.inr (hapart j i hj hi hji))

theorem matchesFrom_end : matchesFrom e before position resume lastStop [] =
    (reportedAt e before position resume lastStop []).toList ++ [] := rfl

theorem matchesFrom_over (c : Char) : ∃ nextStop,
    matchesFrom e before position resume lastStop (c :: text) =
      (reportedAt e before position resume lastStop (c :: text)).toList ++
        matchesFrom e (some c) (position + 1)
          (resumeAfter position resume (reportedAt e before position resume lastStop (c :: text)))
          nextStop text :=
  ⟨_, rfl⟩

/-- The matches that are reported behind `front`, from the end of the text back. -/
theorem reports_matchesFrom :
    Reports e (front ++ rest) front.length resume
      (matchesFrom e front.getLast? front.length resume lastStop rest) := by
  induction rest generalizing front resume lastStop with
  | nil =>
    rw [matchesFrom_end]
    refine Reports.step rfl (reports_nil ?_)
    rw [List.append_nil]
    exact Nat.lt_succ_self _
  | cons c rest ih =>
    obtain ⟨nextStop, hstep⟩ :=
      @matchesFrom_over e front.getLast? front.length resume lastStop rest c
    rw [hstep]
    refine Reports.step rfl ?_
    have hnext := @ih (resumeAfter front.length resume
        (reportedAt e front.getLast? front.length resume lastStop (c :: rest))) nextStop
      (front ++ [c])
    rwa [List.append_assoc, List.getLast?_concat, List.length_append] at hnext

theorem reports_matches (e : Expr) (text : List Char) : Reports e text 0 0 (e.matches text) :=
  @reports_matchesFrom e 0 none [] text

end Matches
end ParseFlow.Regex.Expr
