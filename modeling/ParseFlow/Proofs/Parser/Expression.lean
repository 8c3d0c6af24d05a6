import ParseFlow.Proofs.Parser.Primitive
import ParseFlow.Proofs.Regex.Searching

/-!
# Two parsers of one expression

One parser of an expression takes the longest match there is, the other the one that a search of the
window prefers, if it begins where the window does. As long as the expression asks for no word
boundaries of all scripts, both succeed wherever the expression matches at all, and each passes a
text that it matches.
-/
namespace ParseFlow.Parser

open View

variable {compiled : Regex} {v rest : View Char} {taken other : List Char}

/-- The parse passes `text`, which the expression matches at the start of the window. -/
structure Passes (e : Regex.Expr) (v : View Char) (text : String) (rest : View Char) : Prop where
  rooted : e.Rooted v.window text.toList
  rest_eq : rest = v.behind text.toList

theorem passes_behind {e : Regex.Expr} (h : e.Rooted v.window taken) :
    Passes e v (String.ofList taken) (v.behind taken) := by
  constructor
  · rwa [String.toList_ofList]
  · rw [String.toList_ofList]

/-- The text that is passed is the one between the two views. -/
theorem Passes.text_eq {e : Regex.Expr} {text : String} (h : Passes e v text rest)
    (hv : v.Valid) : rest.IsSuffix v ∧ text = (v.upTo rest).text := by
  obtain ⟨⟨left, hw, -⟩, rfl⟩ := h
  constructor
  · exact hv.isSuffix_behind ⟨left, hw.symm⟩
  · rw [View.text, hv.window_upTo hw, String.ofList_toList]

/-- A longer beginning of a window spans no fewer positions. -/
theorem extent_le_of_prefix (ho : other <+: v.window) (ht : taken <+: v.window)
    (hle : other.length ≤ taken.length) : extent other ≤ extent taken :=
  extent_mono (List.prefix_of_prefix_length_le ho ht hle)

/-- The longest of all matches is passed, unless there is none. -/
theorem longest_outcome (hb : compiled.expr.hasUnicodeBoundary = false) (hv : v.Valid) :
    (∃ taken, compiled.expr.Rooted v.window taken ∧
      (∀ other, compiled.expr.Rooted v.window other → extent other ≤ extent taken) ∧
      ((longest compiled).parse v).value = .success (String.ofList taken) (v.behind taken)) ∨
    ((∀ taken, ¬ compiled.expr.Rooted v.window taken) ∧
      ((longest compiled).parse v).value = .failure (expected (.regex compiled.source)) v) := by
  have h := recognises_longest compiled
  rcases compiled.expr.longest_spec hb v.window with ⟨taken, ht, hmax, hr⟩ | ⟨hno, hr⟩
  · have hlength : longest? compiled v.window = some taken.length := by rw [longest?, hr]
    obtain ⟨left, hw, -⟩ := id ht
    refine .inl ⟨taken, ht, fun other ho => ?_, h.success_of_length hv hw hlength⟩
    have hle := hmax other ho
    obtain ⟨others, hwo, -⟩ := ho
    exact extent_le_of_prefix ⟨others, hwo.symm⟩ ⟨left, hw.symm⟩ hle
  · have hlength : longest? compiled v.window = none := by rw [longest?, hr]
    exact .inr ⟨hno, h.failure_of_length hv hlength⟩

/-- Some match is passed, unless there is none; it is the first of all in the window. -/
theorem pattern_outcome (compiled : Regex) (hv : v.Valid) :
    (∃ taken slots, compiled.expr.Rooted v.window taken ∧
      (compiled.expr.matches v.window).head? = some ⟨0, taken.length, slots⟩ ∧
      ((pattern compiled).parse v).value = .success (String.ofList taken) (v.behind taken)) ∨
    ((∀ taken, ¬ compiled.expr.Rooted v.window taken) ∧
      (∀ m, (compiled.expr.matches v.window).head? = some m → 0 < m.start) ∧
      ((pattern compiled).parse v).value = .failure (expected (.regex compiled.source)) v) := by
  have h := recognises_pattern compiled
  rcases compiled.expr.preferred_spec v.window with ⟨taken, slots, ht, hr⟩ | ⟨hno, hr⟩
  · have hlength : preferred? compiled v.window = some taken.length := by
      rw [preferred?, hr, Option.map_some]
    obtain ⟨left, hw, -⟩ := id ht
    exact .inl ⟨taken, slots, ht, Regex.Expr.preferred_eq_some_iff.mp hr,
      h.success_of_length hv hw hlength⟩
  · have hlength : preferred? compiled v.window = none := by rw [preferred?, hr, Option.map_none]
    refine .inr ⟨hno, fun m hm => ?_, h.failure_of_length hv hlength⟩
    obtain ⟨start, stop, slots⟩ := m
    cases start with
    | zero =>
      rw [Regex.Expr.preferred_eq_some_iff.mpr hm] at hr
      cases hr
    | succ start => exact Nat.succ_pos start

/-- Both parsers of an expression without word boundaries of all scripts succeed, or both fail and
leave the view as it is. Where they succeed each passes a text that the expression matches: one the
longest of all, the other the first in the window, so that the first goes at least as far. -/
theorem longest_pattern_agree {source : String} {compiled : Regex}
    (hc : Regex.compile source = .ok compiled)
    (hb : compiled.expr.hasUnicodeBoundary = false) {v : View Char} (hv : v.Valid) :
    ∃ p, regex source = .ok p ∧
      match (p.parse v).value, ((pattern compiled).parse v).value with
      | .success long rest, .success short other =>
        (rest.IsSuffix v ∧ long = (v.upTo rest).text) ∧
        (other.IsSuffix v ∧ short = (v.upTo other).text) ∧
        other.offset ≤ rest.offset ∧
        Passes compiled.expr v long rest ∧ Passes compiled.expr v short other ∧
        (∀ text last, Passes compiled.expr v text last → last.offset ≤ rest.offset) ∧
        ∃ slots, (compiled.expr.matches v.window).head? = some ⟨0, short.toList.length, slots⟩
      | .failure _ rest, .failure _ other =>
        rest = v ∧ other = v ∧ (∀ text last, ¬ Passes compiled.expr v text last) ∧
        ∀ m, (compiled.expr.matches v.window).head? = some m → 0 < m.start
      | _, _ => False := by
  have hp : regex source = .ok (longest compiled) := by rw [regex, hc]
  refine ⟨longest compiled, hp, ?_⟩
  rcases longest_outcome hb hv with ⟨taken, ht, hmax, hl⟩ | ⟨hno, hl⟩
  · rcases pattern_outcome compiled hv with ⟨other, slots, ho, hfirst, hr⟩ | ⟨hnone, -, -⟩
    · have hlong := passes_behind ht
      have hshort := passes_behind ho
      have hfar : ∀ text last, Passes compiled.expr v text last →
          last.offset ≤ (v.behind taken).offset := by
        rintro text last ⟨hroot, rfl⟩
        exact Nat.add_le_add_left (hmax _ hroot) v.offset
      rw [hl, hr]
      refine ⟨hlong.text_eq hv, hshort.text_eq hv, hfar _ _ hshort, hlong, hshort, hfar, slots, ?_⟩
      rwa [String.toList_ofList]
    · exact absurd ht (hnone taken)
  · rcases pattern_outcome compiled hv with ⟨other, -, ho, -, -⟩ | ⟨-, hstart, hr⟩
    · exact absurd ho (hno other)
    · rw [hl, hr]
      exact ⟨rfl, rfl, fun text last h => hno _ h.rooted, hstart⟩

/-- A lazy repetition in a window with text around it: the longest match is all of the window, the
preferred one its first character. -/
theorem longest_pattern_agree_lazy :
    let v : View Char := ⟨⟨0, ['y', 'x', 'é', 'x', 'é', 'x']⟩, 1, 6⟩
    let compiled : Regex := ⟨"(?:x|xé)+?", .plus false
      (.alt (.set (.single 'x')) (.seq (.set (.single 'x')) (.set (.single 'é'))))⟩
    Regex.compile compiled.source = .ok compiled ∧ compiled.expr.hasUnicodeBoundary = false ∧
      v.Valid ∧ ∃ p, regex compiled.source = .ok p ∧
        (p.parse v).value.value? = some "xéxé" ∧
        ((pattern compiled).parse v).value.value? = some "x" ∧
        ((pattern compiled).parse v).value.rest.offset ≤ (p.parse v).value.rest.offset := by
  intro v compiled
  have hc : Regex.compile compiled.source = .ok compiled := by decide +kernel
  have hb : compiled.expr.hasUnicodeBoundary = false := rfl
  have hv : v.Valid :=
    ⟨⟨['y'], ['x', 'é', 'x', 'é', 'x'], rfl, by decide⟩,
      ⟨['y', 'x', 'é', 'x', 'é'], ['x'], rfl, by decide⟩⟩
  obtain ⟨p, hp, h⟩ := longest_pattern_agree hc hb hv
  have hlong : (p.parse v).value.value? = some "xéxé" := by
    rw [regex, hc] at hp
    cases hp
    decide +kernel
  have hshort : ((pattern compiled).parse v).value.value? = some "x" := by decide +kernel
  refine ⟨hc, hb, hv, p, hp, hlong, hshort, ?_⟩
  rw [Outcome.eq_success hlong, Outcome.eq_success hshort] at h
  exact h.2.2.1

end ParseFlow.Parser
