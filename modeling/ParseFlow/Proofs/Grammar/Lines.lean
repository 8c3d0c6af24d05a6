import Mathlib.Data.List.Basic
import ParseFlow.Grammar.JsDoc

/-!
# Lines

A line of a text ends at a newline, with the carriage return before it, or at the end of the text;
nothing is read behind a newline at the very end. A text is read line by line, so that facts about
its lines go by induction from its first newline on.
-/
namespace ParseFlow.Grammar.JsDoc

/-- A line without the carriage return at its end. -/
def withoutReturn (line : List Char) : List Char :=
  match line.reverse with
  | '\r' :: rest => rest.reverse
  | _ => line

/-- Where a line may end: at the end of the text, or in front of a newline. A carriage return before
the newline does not belong to the line. -/
inductive EndsLine : (line after : List Char) → Prop
  | text {line : List Char} : line ≠ [] → EndsLine line []
  | newline {line rest : List Char} : line.getLast? ≠ some '\r' → EndsLine line ('\n' :: rest)
  | carriageReturn {line rest : List Char} : EndsLine line ('\r' :: '\n' :: rest)

/-- A line of the text, with what stands before and behind it. -/
structure LineAt (text before line after : List Char) : Prop where
  split : text = before ++ line ++ after
  start : ∀ c ∈ before.getLast?, c = '\n'
  inside : '\n' ∉ line
  stop : EndsLine line after

/-- A text is a line without a newline, or goes on behind the first one. -/
theorem linewise {motive : List Char → Prop} (last : ∀ line, '\n' ∉ line → motive line)
    (onwards : ∀ line rest, '\n' ∉ line → motive rest → motive (line ++ '\n' :: rest))
    (text : List Char) : motive text := by
  induction hn : text.length using Nat.strongRecOn generalizing text with
  | ind n ih =>
    by_cases hmem : '\n' ∈ text
    · obtain ⟨line, rest, rfl, hl⟩ := List.eq_append_cons_of_mem hmem
      refine onwards line rest hl (ih rest.length ?_ rest rfl)
      rw [← hn, List.length_append, List.length_cons]
      omega
    · exact last text hmem

section Reading

variable {c : Char} {before line rest text : List Char}

theorem withoutReturn_concat : withoutReturn (line ++ ['\r']) = line := by
  rw [withoutReturn, List.reverse_append, List.reverse_singleton, List.singleton_append]
  exact List.reverse_reverse line

theorem withoutReturn_of_last (h : line.getLast? ≠ some '\r') : withoutReturn line = line := by
  rw [withoutReturn]
  split
  · next rest hr =>
    rw [← List.head?_reverse, hr] at h
    exact absurd rfl h
  · rfl

theorem linesFrom_newline :
    lines.linesFrom before ('\n' :: rest) =
      withoutReturn before.reverse :: lines.linesFrom [] rest := by
  rw [withoutReturn, List.reverse_reverse]
  split
  · rw [lines.linesFrom]
  · next hr =>
    rw [lines.linesFrom]
    exact hr

theorem linesFrom_cons (hc : c ≠ '\n') :
    lines.linesFrom before (c :: rest) = lines.linesFrom (c :: before) rest := by
  rw [lines.linesFrom]
  exact hc

theorem linesFrom_append (hl : '\n' ∉ line) :
    lines.linesFrom before (line ++ rest) = lines.linesFrom (line.reverse ++ before) rest := by
  induction line generalizing before with
  | nil => rfl
  | cons c line ih =>
    obtain ⟨hc, hl⟩ := not_or.mp (mt List.mem_cons.mpr hl)
    rw [List.cons_append, linesFrom_cons (Ne.symm hc), ih hl, List.reverse_cons, List.append_assoc]
    rfl

/-- A line is read up to the first newline. -/
theorem lines_newline (hl : '\n' ∉ line) :
    lines (line ++ '\n' :: rest) = withoutReturn line :: lines rest := by
  rw [lines, linesFrom_append hl, linesFrom_newline, List.append_nil, List.reverse_reverse, lines]

/-- The last line is read to the end of the text, if there is anything in it. -/
theorem lines_last (hl : '\n' ∉ line) : lines line = if line.isEmpty then [] else [line] := by
  have h := @linesFrom_append [] line [] hl
  rw [List.append_nil, List.append_nil] at h
  rw [lines, h, lines.linesFrom, List.isEmpty_reverse, List.reverse_reverse]

/-- The lines behind a newline are lines of the text. -/
theorem mem_lines_behind (h : line ∈ lines rest) : line ∈ lines (text ++ '\n' :: rest) := by
  induction text using linewise with
  | last first hf =>
    rw [lines_newline hf]
    exact List.mem_cons_of_mem _ h
  | onwards first text hf ih =>
    rw [List.append_assoc, List.cons_append, lines_newline hf]
    exact List.mem_cons_of_mem _ ih

end Reading

/-! ## Lines and their places -/

section Places

variable {line text : List Char}

/-- A line that is read up to the first newline stands at the start of the text. -/
theorem lineAt_first {rest : List Char} (hl : '\n' ∉ line) :
    ∃ after, LineAt (line ++ '\n' :: rest) [] (withoutReturn line) after := by
  by_cases hr : line.getLast? = some '\r'
  · obtain ⟨front, rfl⟩ := List.getLast?_eq_some_iff.mp hr
    rw [withoutReturn_concat]
    have hf : '\n' ∉ front := fun hm => hl (List.mem_append_left _ hm)
    refine ⟨'\r' :: '\n' :: rest, ?_, nofun, hf, .carriageReturn⟩
    rw [List.append_assoc]
    rfl
  · rw [withoutReturn_of_last hr]
    exact ⟨'\n' :: rest, rfl, nofun, hl, .newline hr⟩

theorem mem_lines_first {after : List Char} (hl : '\n' ∉ line) (h : EndsLine line after) :
    line ∈ lines (line ++ after) := by
  cases h with
  | text hn =>
    rw [List.append_nil, lines_last hl, List.isEmpty_eq_false_iff.mpr hn]
    exact List.mem_singleton_self line
  | newline hr =>
    rw [lines_newline hl, withoutReturn_of_last hr]
    exact List.mem_cons_self
  | @carriageReturn rest =>
    have hl' : '\n' ∉ line ++ ['\r'] := by simpa using hl
    have h := @lines_newline _ rest hl'
    rw [withoutReturn_concat, List.append_assoc, List.singleton_append] at h
    rw [h]
    exact List.mem_cons_self

theorem LineAt.behind {before after first : List Char} (h : LineAt text before line after) :
    LineAt (first ++ '\n' :: text) (first ++ '\n' :: before) line after := by
  constructor
  · rw [h.split]
    simp only [List.append_assoc, List.cons_append]
  · intro c hc
    rcases List.eq_nil_or_concat' before with rfl | ⟨front, d, rfl⟩
    · simpa using hc.symm
    · refine h.start c ?_
      simpa [List.getLast?_append, List.getLast?_cons] using hc
  · exact h.inside
  · exact h.stop

/-- The lines of a text are those that have a place in it. -/
theorem mem_lines_iff : line ∈ lines text ↔ ∃ before after, LineAt text before line after := by
  constructor
  · intro h
    induction text using linewise with
    | last first hf =>
      rw [lines_last hf, List.mem_ite_nil_left, List.mem_singleton, List.isEmpty_iff] at h
      obtain ⟨hn, rfl⟩ := h
      exact ⟨[], [], (List.append_nil line).symm, nofun, hf, .text hn⟩
    | onwards first rest hf ih =>
      rw [lines_newline hf] at h
      rcases List.mem_cons.mp h with rfl | h
      · exact ⟨[], lineAt_first hf⟩
      · obtain ⟨before, after, hat⟩ := ih h
        exact ⟨_, after, hat.behind⟩
  · rintro ⟨before, after, ⟨rfl, hstart, hl, hstop⟩⟩
    rcases List.eq_nil_or_concat' before with rfl | ⟨front, c, rfl⟩
    · exact mem_lines_first hl hstop
    · obtain rfl : c = '\n' := hstart c (by simp)
      rw [List.append_assoc, List.append_assoc, List.singleton_append]
      exact mem_lines_behind (mem_lines_first hl hstop)

end Places

/-! ## Joined lines -/

section Joined

variable {line : List Char} {ls : List (List Char)}

theorem joinLines_eq_intercalate (ls : List (List Char)) :
    joinLines ls = ['\n'].intercalate ls := by
  induction ls using joinLines.induct with
  | case1 => rfl
  | case2 line => simp [joinLines]
  | case3 line ls hne ih =>
    obtain ⟨next, ls, rfl⟩ := List.exists_cons_of_ne_nil (fun h => hne h)
    rw [joinLines, ih, List.intercalate_cons_cons, List.append_assoc]
    · rfl
    · exact hne

theorem joinLines_cons (h : ls ≠ []) : joinLines (line :: ls) = line ++ '\n' :: joinLines ls := by
  rw [joinLines]
  exact h

theorem joinLines_concat (h : ls ≠ []) :
    joinLines (ls ++ [line]) = joinLines ls ++ '\n' :: line := by
  induction ls with
  | nil => exact absurd rfl h
  | cons first ls ih =>
    rw [List.cons_append, joinLines_cons (List.concat_ne_nil _ _)]
    by_cases hl : ls = []
    · subst hl
      rfl
    · rw [ih hl, joinLines_cons hl, List.append_assoc, List.cons_append]

/-- Lines that hold no line end are read back from the text they are joined to. -/
theorem lines_joinLines (h : ∀ line ∈ ls, '\n' ∉ line ∧ line ≠ [] ∧ line.getLast? ≠ some '\r') :
    lines (joinLines ls) = ls := by
  induction ls with
  | nil => rfl
  | cons first ls ih =>
    obtain ⟨⟨hl, hn, hr⟩, hls⟩ := List.forall_mem_cons.mp h
    by_cases hne : ls = []
    · subst hne
      rw [joinLines, lines_last hl, List.isEmpty_eq_false_iff.mpr hn]
      rfl
    · rw [joinLines_cons hne, lines_newline hl, withoutReturn_of_last hr, ih hls]

end Joined

end ParseFlow.Grammar.JsDoc
