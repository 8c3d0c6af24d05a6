import Mathlib.Order.Bounds.Basic
import ParseFlow.Proofs.Regex.Fitting

/-!
# What the searches find

Both searches are held against the matches that there are at the start of a text. The longest search
finds the greatest length of all. The preferred search finds some length, and it finds one if there
is any: it drops expressions only where it has a match already. Moving on by one character keeps
this for the rest of the text.
-/
namespace ParseFlow.Regex

open ParseFlow.Regex.Expr

/-- One of the expressions matches the first `n` characters of the text. -/
def FitsFirst (exprs : List Expr) (before : Option Char) (text : List Char) (n : Nat) : Prop :=
  ∃ taken left, text = taken ++ left ∧ taken.length = n ∧ ∃ e ∈ exprs, e.Fits before taken left

/-- The alternatives of all the expressions. -/
def alternativesOf (exprs : List Expr) (before : Option Char) (text : List Char) :
    List Alternative :=
  exprs.flatMap (alternatives ⟨before, text.head?⟩)

section FitsFirst

variable {exprs others : List Expr} {before : Option Char} {c : Char} {rest : Expr}
  {text : List Char} {n : Nat}

theorem mayStop_alternativesOf :
    MayStop (alternativesOf exprs before text) ↔
      ∃ e ∈ exprs, MayStop (e.alternatives ⟨before, text.head?⟩) := by
  simp only [MayStop, alternativesOf, List.mem_flatMap]
  grind

theorem mayTake_alternativesOf :
    MayTake c rest (alternativesOf exprs before text) ↔
      ∃ e ∈ exprs, MayTake c rest (e.alternatives ⟨before, text.head?⟩) := by
  simp only [MayTake, alternativesOf, List.mem_flatMap]
  grind

theorem not_fitsFirst_nil : ¬ FitsFirst [] before text n := by
  rintro ⟨taken, left, -, -, e, he, -⟩
  cases he

theorem fitsFirst_zero :
    FitsFirst exprs before text 0 ↔ MayStop (alternativesOf exprs before text) := by
  simp only [mayStop_alternativesOf, mayStop_iff_fits]
  constructor
  · rintro ⟨taken, left, rfl, hn, e, he, hf⟩
    obtain rfl := List.length_eq_zero_iff.mp hn
    exact ⟨e, he, hf⟩
  · rintro ⟨e, he, hf⟩
    exact ⟨[], text, rfl, rfl, e, he, hf⟩

theorem not_fitsFirst_succ_nil : ¬ FitsFirst exprs before [] (n + 1) := by
  rintro ⟨taken, left, ht, hn, -⟩
  have hl := congrArg List.length ht
  rw [List.length_append, List.length_nil] at hl
  omega

/-- A match of an expression that is open behind the first character is one character longer as a
whole. -/
theorem FitsFirst.of_over (h : FitsFirst others (some c) text n)
    (hm : ∀ e ∈ others, MayTake c e (alternativesOf exprs before (c :: text))) :
    FitsFirst exprs before (c :: text) (n + 1) := by
  obtain ⟨taken, left, rfl, hn, rest, hopen, hrest⟩ := h
  obtain ⟨e, he, htake⟩ := mayTake_alternativesOf.mp (hm rest hopen)
  have hf : e.Fits before (c :: taken) left := fits_cons_iff.mpr ⟨rest, htake, hrest⟩
  exact ⟨c :: taken, left, rfl, congrArg Nat.succ hn, e, he, hf⟩

theorem FitsFirst.over (h : FitsFirst exprs before (c :: text) (n + 1))
    (hm : ∀ e, MayTake c e (alternativesOf exprs before (c :: text)) → e ∈ others) :
    FitsFirst others (some c) text n := by
  obtain ⟨taken, left, ht, hn, e, he, hf⟩ := h
  cases taken with
  | nil => cases hn
  | cons d taken =>
    obtain ⟨rfl, rfl⟩ := List.cons.inj ht
    obtain ⟨rest, htake, hrest⟩ := fits_cons_iff.mp hf
    have hopen := hm rest (mayTake_alternativesOf.mpr ⟨e, he, htake⟩)
    exact ⟨taken, left, rfl, Nat.succ.inj hn, rest, hopen, hrest⟩

end FitsFirst

/-! ## The longest search -/

theorem mem_withoutCopies {α : Type} [DecidableEq α] {x : α} {seen xs : List α} :
    x ∈ withoutCopies seen xs ↔ x ∈ xs ∧ x ∉ seen := by
  induction xs generalizing seen with
  | nil => simp [withoutCopies]
  | cons y xs ih =>
    rw [withoutCopies]
    split
    · rw [ih]
      grind
    · rw [List.mem_cons, ih]
      grind

theorem mem_movedBy {c : Char} {e : Expr} {xs : List Alternative} :
    e ∈ movedBy c xs ↔ MayTake c e xs := by
  have hm : movedBy c xs = withoutCopies [] (xs.filterMap (Alternative.over? c)) := rfl
  rw [hm, mem_withoutCopies, List.mem_filterMap]
  simp [MayTake]

/-- The search comes to the greatest length at which one of the expressions matches, and to the best
that was found before if there is none. -/
theorem longestFrom_spec (text : List Char) (before : Option Char) (exprs : List Expr)
    (justStopped : Bool) (passed : Nat) (best : Option Nat) :
    (∃ n, IsGreatest {n | FitsFirst exprs before text n} n ∧
      longestFrom false before exprs justStopped passed best text = .found (passed + n)) ∨
    ((∀ n, ¬ FitsFirst exprs before text n) ∧
      longestFrom false before exprs justStopped passed best text = .ofBest best) := by
  induction text generalizing before exprs justStopped passed best with
  | nil =>
    by_cases hs : (alternativesOf exprs before []).any (·.isStop) = true
    · refine .inl ⟨0, ⟨fitsFirst_zero.mpr (any_isStop_iff.mp hs), fun n hn => ?_⟩, ?_⟩
      · cases n with
        | zero => exact Nat.le_refl 0
        | succ n => exact absurd hn not_fitsFirst_succ_nil
      · exact congrArg Longest.ofBest (if_pos hs)
    · refine .inr ⟨fun n hn => ?_, congrArg Longest.ofBest (if_neg hs)⟩
      cases n with
      | zero => exact hs (any_isStop_iff.mpr (fitsFirst_zero.mp hn))
      | succ n => exact not_fitsFirst_succ_nil hn
  | cons c text ih =>
    by_cases he : (exprs.isEmpty && !justStopped) = true
    · obtain ⟨hnil, -⟩ := Bool.and_eq_true_iff.mp he
      obtain rfl := List.isEmpty_iff.mp hnil
      exact .inr ⟨fun n hn => not_fitsFirst_nil hn, if_pos he⟩
    let found := alternativesOf exprs before (c :: text)
    have hstep : longestFrom false before exprs justStopped passed best (c :: text) =
        longestFrom false (some c) (movedBy c found) (found.any (·.isStop)) (passed + 1)
          (if found.any (·.isStop) then some passed else best) text := if_neg he
    have hsucc : ∀ n, FitsFirst exprs before (c :: text) (n + 1) ↔
        FitsFirst (movedBy c found) (some c) text n := by
      intro n
      exact ⟨fun h => h.over fun e => mem_movedBy.mpr, fun h => h.of_over fun e => mem_movedBy.mp⟩
    rw [hstep]
    rcases ih (some c) (movedBy c found) (found.any (·.isStop)) (passed + 1)
        (if found.any (·.isStop) then some passed else best) with ⟨n, ⟨hn, hmax⟩, hr⟩ | ⟨hno, hr⟩
    · refine .inl ⟨n + 1, ⟨(hsucc n).mpr hn, fun m hm => ?_⟩, ?_⟩
      · cases m with
        | zero => exact Nat.zero_le _
        | succ m => exact Nat.succ_le_succ (hmax ((hsucc m).mp hm))
      · rw [hr, Nat.add_assoc, Nat.add_comm 1]
    · rw [hr]
      by_cases hs : found.any (·.isStop) = true
      · refine .inl ⟨0, ⟨fitsFirst_zero.mpr (any_isStop_iff.mp hs), fun m hm => ?_⟩, ?_⟩
        · cases m with
          | zero => exact Nat.le_refl 0
          | succ m => exact absurd ((hsucc m).mp hm) (hno m)
        · rw [if_pos hs]
          rfl
      · refine .inr ⟨fun m hm => ?_, ?_⟩
        · cases m with
          | zero => exact hs (any_isStop_iff.mpr (fitsFirst_zero.mp hm))
          | succ m => exact hno m ((hsucc m).mp hm)
        · rw [if_neg hs]

/-! ## The preferred search -/

/-- Only alternatives that take a character are followed; as long as none stops, all of them. -/
theorem untilStop_spec (position : Nat) (xs : List (Slots × Alternative)) :
    ((untilStop position xs).2.isSome = true ↔ MayStop (xs.map (·.2))) ∧
    (∀ m ∈ (untilStop position xs).1, ∃ a ∈ xs.map (·.2), a.move = some m.2) ∧
    ((untilStop position xs).2 = none → ∀ a ∈ xs.map (·.2), ∀ move, a.move = some move →
      ∃ slots, (slots, move) ∈ (untilStop position xs).1) := by
  induction xs with
  | nil => simp [untilStop]
  | cons x xs ih =>
    obtain ⟨slots, a⟩ := x
    obtain ⟨ihs, ihm, iha⟩ := ih
    cases hm : a.move with
    | none => simp [untilStop, hm, MayStop, Alternative.isStop]
    | some m =>
      obtain ⟨k, next⟩ := m
      simp only [untilStop, hm]
      refine ⟨?_, ?_, ?_⟩
      · rw [ihs]
        simp [MayStop, Alternative.isStop, hm]
      · grind
      · grind

theorem mem_mostPreferred {e : Expr} {seen : List Expr} {threads : List Thread} :
    e ∈ (mostPreferred seen threads).map (·.expr) ↔ e ∈ threads.map (·.expr) ∧ e ∉ seen := by
  induction threads generalizing seen with
  | nil => simp [mostPreferred]
  | cons t threads ih =>
    rw [mostPreferred]
    split
    · rw [ih]
      grind
    · rw [List.map_cons, List.mem_cons, ih]
      grind

/-- The threads that are open behind the character `c`. -/
def threadsOver (c : Char) (moves : List (Slots × CharClass × Expr)) : List Thread :=
  mostPreferred [] (moves.filterMap fun (slots, k, next) =>
    if k.contains c then some ⟨next, slots⟩ else none)

theorem mem_threadsOver {c : Char} {e : Expr} {moves : List (Slots × CharClass × Expr)} :
    e ∈ (threadsOver c moves).map (·.expr) ↔
      ∃ slots k, (slots, k, e) ∈ moves ∧ k.contains c = true := by
  rw [threadsOver, mem_mostPreferred]
  simp only [List.mem_map, List.mem_filterMap, List.not_mem_nil, not_false_iff, and_true]
  constructor
  · rintro ⟨t, ⟨⟨slots, k, next⟩, hmem, hk⟩, rfl⟩
    simp only [Option.ite_none_right_eq_some, Option.some.injEq] at hk
    obtain ⟨hk, rfl⟩ := hk
    exact ⟨slots, k, hmem, hk⟩
  · rintro ⟨slots, k, hmem, hk⟩
    exact ⟨⟨e, slots⟩, ⟨(slots, k, e), hmem, if_pos hk⟩, rfl⟩

/-- The alternatives of the threads, with the slots of each. -/
def offered (threads : List Thread) (before : Option Char) (text : List Char) :
    List (Slots × Alternative) :=
  threads.flatMap fun t => (t.expr.alternatives ⟨before, text.head?⟩).map (t.slots, ·)

/-- The best match so far, once it is known whether a thread stops here. -/
def bestAfter (position : Nat) (best : Option (Nat × Slots)) : Option Slots → Option (Nat × Slots)
  | some slots => some (position, slots)
  | none => best

section Preferred

variable {threads : List Thread} {t : Thread} {before : Option Char} {position : Nat} {c : Char}
  {best : Option (Nat × Slots)} {text : List Char} {e : Expr}

theorem map_offered :
    (offered threads before text).map (·.2) =
      alternativesOf (threads.map (·.expr)) before text := by
  have hsnd : ∀ (slots : Slots) (xs : List Alternative), (xs.map (slots, ·)).map (·.2) = xs := by
    intro slots xs
    rw [List.map_map]
    exact List.map_id xs
  simp only [offered, alternativesOf, List.map_flatMap, List.flatMap_map, hsnd]

theorem preferredFrom_end :
    preferredFrom before (t :: threads) position best [] =
      bestAfter position best (untilStop position (offered (t :: threads) before [])).2 := rfl

theorem preferredFrom_over :
    preferredFrom before (t :: threads) position best (c :: text) =
      preferredFrom (some c)
        (threadsOver c (untilStop position (offered (t :: threads) before (c :: text))).1)
        (position + 1)
        (bestAfter position best (untilStop position (offered (t :: threads) before (c :: text))).2)
        text := rfl

/-- A thread stops where the empty text is matched. -/
theorem isSome_untilStop :
    (untilStop position (offered threads before text)).2.isSome = true ↔
      FitsFirst (threads.map (·.expr)) before text 0 := by
  rw [(untilStop_spec position _).1, map_offered, fitsFirst_zero]

theorem fitsFirst_of_untilStop {slots : Slots}
    (hs : (untilStop position (offered threads before text)).2 = some slots) :
    FitsFirst (threads.map (·.expr)) before text 0 :=
  isSome_untilStop.mp (Option.isSome_of_eq_some hs)

theorem not_fitsFirst_of_untilStop
    (hs : (untilStop position (offered threads before text)).2 = none) :
    ¬ FitsFirst (threads.map (·.expr)) before text 0 := by
  intro hn
  rw [← @isSome_untilStop threads before position text, hs] at hn
  cases hn

theorem mayTake_of_mem_threadsOver
    (h : e ∈ (threadsOver c (untilStop position (offered threads before text)).1).map (·.expr)) :
    MayTake c e (alternativesOf (threads.map (·.expr)) before text) := by
  obtain ⟨slots, k, hmem, hk⟩ := mem_threadsOver.mp h
  obtain ⟨a, ha, hmove⟩ := (untilStop_spec position _).2.1 _ hmem
  rw [map_offered] at ha
  refine ⟨a, ha, ?_⟩
  simp only [Alternative.over?, hmove, hk, ↓reduceIte]

/-- As long as no thread stops, none is dropped. -/
theorem mem_threadsOver_iff
    (hs : (untilStop position (offered threads before text)).2 = none) :
    e ∈ (threadsOver c (untilStop position (offered threads before text)).1).map (·.expr) ↔
      MayTake c e (alternativesOf (threads.map (·.expr)) before text) := by
  constructor
  · exact mayTake_of_mem_threadsOver
  · rintro ⟨a, ha, htake⟩
    rw [← map_offered] at ha
    cases hm : a.move with
    | none => simp [Alternative.over?, hm] at htake
    | some move =>
      obtain ⟨k, next⟩ := move
      simp only [Alternative.over?, hm, Option.ite_none_right_eq_some, Option.some.injEq] at htake
      obtain ⟨hk, rfl⟩ := htake
      obtain ⟨slots, hmem⟩ := (untilStop_spec position _).2.2 hs a ha (k, next) hm
      exact mem_threadsOver.mpr ⟨slots, k, hmem, hk⟩

end Preferred

/-- The search comes to a length at which one of the threads matches, and to the best match that was
found before if there is none. -/
theorem preferredFrom_spec (text : List Char) (before : Option Char) (threads : List Thread)
    (position : Nat) (best : Option (Nat × Slots)) :
    (∃ n slots, FitsFirst (threads.map (·.expr)) before text n ∧
      preferredFrom before threads position best text = some (position + n, slots)) ∨
    ((∀ n, ¬ FitsFirst (threads.map (·.expr)) before text n) ∧
      preferredFrom before threads position best text = best) := by
  induction text generalizing before threads position best with
  | nil =>
    cases threads with
    | nil => exact .inr ⟨fun n => not_fitsFirst_nil, by rw [preferredFrom]⟩
    | cons t threads =>
      rw [preferredFrom_end]
      cases hs : (untilStop position (offered (t :: threads) before [])).2 with
      | some slots => exact .inl ⟨0, slots, fitsFirst_of_untilStop hs, rfl⟩
      | none =>
        refine .inr ⟨fun n hn => ?_, rfl⟩
        cases n with
        | zero => exact not_fitsFirst_of_untilStop hs hn
        | succ n => exact not_fitsFirst_succ_nil hn
  | cons c text ih =>
    cases threads with
    | nil => exact .inr ⟨fun n => not_fitsFirst_nil, by rw [preferredFrom]⟩
    | cons t threads =>
      rw [preferredFrom_over]
      let opened := (untilStop position (offered (t :: threads) before (c :: text))).1
      let found := (untilStop position (offered (t :: threads) before (c :: text))).2
      rcases ih (some c) (threadsOver c opened) (position + 1) (bestAfter position best found) with
        ⟨n, slots, hn, hr⟩ | ⟨hno, hr⟩
      · refine .inl ⟨n + 1, slots, hn.of_over fun e he => mayTake_of_mem_threadsOver he, ?_⟩
        rw [hr, Nat.add_assoc, Nat.add_comm 1]
      · rw [hr]
        cases hs : found with
        | some slots => exact .inl ⟨0, slots, fitsFirst_of_untilStop hs, rfl⟩
        | none =>
          -- No thread was dropped, so that a longer match would still be found.
          refine .inr ⟨fun n hn => ?_, rfl⟩
          cases n with
          | zero => exact not_fitsFirst_of_untilStop hs hn
          | succ n => exact hno n (hn.over fun e he => (mem_threadsOver_iff hs).mpr he)

/-! ## Searches at the start of a text -/

namespace Expr

/-- The expression matches `taken` at the start of the text. -/
def Rooted (e : Expr) (text taken : List Char) : Prop :=
  ∃ left, text = taken ++ left ∧ e.Fits none taken left

variable {e : Expr} {text : List Char}

theorem fitsFirst_singleton {n : Nat} :
    FitsFirst [e] none text n ↔ ∃ taken, e.Rooted text taken ∧ taken.length = n := by
  constructor
  · rintro ⟨taken, left, ht, hn, e, he, hf⟩
    obtain rfl := List.mem_singleton.mp he
    exact ⟨taken, ⟨left, ht, hf⟩, hn⟩
  · rintro ⟨taken, ⟨left, ht, hf⟩, hn⟩
    exact ⟨taken, left, ht, hn, e, List.mem_singleton_self e, hf⟩

theorem Rooted.fitsFirst {taken : List Char} (h : e.Rooted text taken) :
    FitsFirst [e] none text taken.length := fitsFirst_singleton.mpr ⟨taken, h, rfl⟩

/-- The longest of all matches is found, unless there is none. -/
theorem longest_spec (hb : e.hasUnicodeBoundary = false) (text : List Char) :
    (∃ taken, e.Rooted text taken ∧ (∀ other, e.Rooted text other → other.length ≤ taken.length) ∧
      e.longest text = .found taken.length) ∨
    ((∀ taken, ¬ e.Rooted text taken) ∧ e.longest text = .missing) := by
  rw [longest, hb]
  rcases longestFrom_spec text none [e] false 0 none with ⟨n, ⟨hn, hmax⟩, hr⟩ | ⟨hno, hr⟩
  · obtain ⟨taken, htaken, rfl⟩ := fitsFirst_singleton.mp hn
    rw [Nat.zero_add] at hr
    exact .inl ⟨taken, htaken, fun other ho => hmax ho.fitsFirst, hr⟩
  · exact .inr ⟨fun taken ht => hno _ ht.fitsFirst, hr⟩

/-- Some match is found, unless there is none. -/
theorem preferred_spec (e : Expr) (text : List Char) :
    (∃ taken slots, e.Rooted text taken ∧
      e.preferred none 0 text = some (taken.length, slots)) ∨
    ((∀ taken, ¬ e.Rooted text taken) ∧ e.preferred none 0 text = none) := by
  rcases preferredFrom_spec text none [⟨e, []⟩] 0 none with ⟨n, slots, hn, hr⟩ | ⟨hno, hr⟩
  · obtain ⟨taken, htaken, rfl⟩ := fitsFirst_singleton.mp hn
    rw [Nat.zero_add] at hr
    exact .inl ⟨taken, slots, htaken, hr⟩
  · exact .inr ⟨fun taken ht => hno _ ht.fitsFirst, hr⟩

/-! ### Searches that may begin anywhere -/

/-- The matches that are reported from a position on begin there or later. -/
theorem start_ge_of_mem {before : Option Char} {position resume : Nat} {lastStop : Option Nat}
    {m : Match} (h : m ∈ matchesFrom e before position resume lastStop text) :
    position ≤ m.start := by
  induction text generalizing before position resume lastStop with
  | nil =>
    simp only [matchesFrom, List.append_nil, Option.mem_toList] at h
    grind
  | cons c text ih =>
    simp only [matchesFrom, List.mem_append, Option.mem_toList] at h
    rcases h with h | h
    · grind
    · exact Nat.le_of_succ_le (ih h)

/-- The first of all matches is the preferred one at the start, if there is one there. -/
theorem preferred_eq_some_iff {stop : Nat} {slots : Slots} :
    e.preferred none 0 text = some (stop, slots) ↔
      (e.matches text).head? = some ⟨0, stop, slots⟩ := by
  cases hp : e.preferred none 0 text with
  | some found =>
    have hfirst : (e.matches text).head? = some ⟨0, found.1, found.2⟩ := by
      cases text <;> simp [Expr.matches, matchesFrom, hp]
    rw [hfirst]
    simp [Prod.ext_iff]
  | none =>
    refine ⟨nofun, fun h => ?_⟩
    have hm := List.mem_of_mem_head? h
    cases text with
    | nil => simp [Expr.matches, matchesFrom, hp] at hm
    | cons c text =>
      -- All that is found lies behind the first character.
      simp only [Expr.matches, matchesFrom, hp, Nat.lt_irrefl, ↓reduceIte, Option.toList_none,
        List.nil_append] at hm
      exact absurd (start_ge_of_mem hm) (Nat.not_succ_le_zero 0)

end Expr
end ParseFlow.Regex
