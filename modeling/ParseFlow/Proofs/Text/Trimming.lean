import Mathlib.Data.List.DropRight
import ParseFlow.Text.Blank

/-!
# Trimmed texts

Trimming takes blanks off either end of a text until there is none left there.
-/
namespace ParseFlow.Text

theorem dropEndWhile_eq_rdropWhile {α : Type} (p : α → Bool) (xs : List α) :
    dropEndWhile p xs = xs.rdropWhile p := by
  induction xs with
  | nil => rfl
  | cons x xs ih =>
    rw [dropEndWhile, ih, List.rdropWhile, List.rdropWhile, List.reverse_cons, List.dropWhile_append]
    cases xs.reverse.dropWhile p using List.reverseRecOn with
    | nil => by_cases hx : p x = true <;> simp [hx]
    | append_singleton ys y _ => simp

/-- `core` is the text without the blanks at its ends. -/
structure TrimsTo (text core : List Char) : Prop where
  split : ∃ lead trail, text = lead ++ core ++ trail ∧ (∀ c ∈ lead, isBlank c = true) ∧
    ∀ c ∈ trail, isBlank c = true
  first : ∀ c ∈ core.head?, isBlank c = false
  last : ∀ c ∈ core.getLast?, isBlank c = false

theorem trimEnd_eq_rdropWhile (text : List Char) : trimEnd text = text.rdropWhile isBlank :=
  dropEndWhile_eq_rdropWhile isBlank text

theorem last_trimEnd (text : List Char) : ∀ c ∈ (trimEnd text).getLast?, isBlank c = false := by
  intro c hc
  have hne : text.rdropWhile isBlank ≠ [] := by
    rintro hnil
    rw [trimEnd_eq_rdropWhile, hnil] at hc
    cases hc
  have hnot := List.rdropWhile_last_not isBlank text hne
  rw [trimEnd_eq_rdropWhile, List.getLast?_eq_some_getLast hne] at hc
  cases hc
  exact Bool.eq_false_iff.mpr hnot

theorem trimsTo_trim (text : List Char) : TrimsTo text (trim text) := by
  have htrim : trim text = (trimStart text).rdropWhile isBlank := trimEnd_eq_rdropWhile _
  constructor
  · refine ⟨text.takeWhile isBlank, (trimStart text).rtakeWhile isBlank, ?_, ?_, ?_⟩
    · rw [htrim, List.append_assoc, List.rdropWhile_append_rtakeWhile, trimStart,
        List.takeWhile_append_dropWhile]
    · intro c hc
      exact List.mem_takeWhile_imp hc
    · intro c hc
      exact List.mem_rtakeWhile_imp hc
  · intro c hc
    have hstart : (trimStart text).head? = some c := by
      obtain ⟨trail, ht⟩ := List.rdropWhile_prefix isBlank (trimStart text)
      rw [← htrim] at ht
      rw [← ht, List.head?_append, hc, Option.some_or]
    have hnot := List.head?_dropWhile_not isBlank text
    rw [trimStart] at hstart
    rw [hstart] at hnot
    exact hnot
  · exact last_trimEnd (trimStart text)

/-! ## Texts that are trimmed already -/

/-- There are no blanks at either end of the text. -/
structure Trimmed (text : List Char) : Prop where
  first : ∀ c ∈ text.head?, isBlank c = false
  last : ∀ c ∈ text.getLast?, isBlank c = false

section Trimmed

variable {text : List Char}

theorem trimmed_trim (text : List Char) : Trimmed (trim text) :=
  ⟨(trimsTo_trim text).first, (trimsTo_trim text).last⟩

theorem trimEnd_eq_self (h : ∀ c ∈ text.getLast?, isBlank c = false) : trimEnd text = text := by
  rw [trimEnd_eq_rdropWhile, List.rdropWhile_eq_self_iff]
  intro hne
  rw [Bool.not_eq_true]
  exact h _ (List.getLast?_eq_some_getLast hne)

theorem trimStart_eq_self (h : ∀ c ∈ text.head?, isBlank c = false) : trimStart text = text := by
  cases text with
  | nil => rfl
  | cons c text => rw [trimStart, List.dropWhile_cons, h c rfl, if_neg Bool.false_ne_true]

theorem Trimmed.trim_eq (h : Trimmed text) : trim text = text := by
  rw [trim, trimStart_eq_self h.first, trimEnd_eq_self h.last]

/-- What trimming leaves is a part of the text. -/
theorem trim_isPart (text : List Char) : trim text <:+: text := by
  obtain ⟨lead, trail, h, -, -⟩ := (trimsTo_trim text).split
  exact ⟨lead, trail, h.symm⟩

end Trimmed

end ParseFlow.Text
