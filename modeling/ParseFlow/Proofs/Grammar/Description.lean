import ParseFlow.Proofs.Grammar.Lines
import ParseFlow.Proofs.Pipeline.Composition
import ParseFlow.Proofs.Text.Trimming

/-!
# Descriptions

The description of a documentation comment consists of lines without blanks at their ends, up to the
first that begins with an at sign, without the empty ones around them. Behind a gutter these lines
are read again as they are.
-/
namespace ParseFlow.Grammar.JsDoc

open Text Pipeline

/-- The lines of a body behind their gutters, up to the first that begins with an at sign. -/
def linesBeforeTags (body : List Char) : List (List Char) :=
  ((lines body).map stripGutter).takeWhile (·.head? != some '@')

/-- The lines of the description: these without the empty ones around them. -/
def describingLines (body : List Char) : List (List Char) :=
  ((linesBeforeTags body).dropWhile List.isEmpty).rdropWhile List.isEmpty

/-! ## Lines behind their gutters -/

section Gutters

variable {line body : List Char}

/-- A line is its gutter and a text that is trimmed. -/
theorem stripGutter_eq_trim (line : List Char) :
    ∃ gutter rest, line = gutter ++ rest ∧ (∀ c ∈ gutter, isBlank c = true ∨ c = '*') ∧
      stripGutter line = trim rest := by
  have hline : line.takeWhile isBlank ++ trimStart line = line := List.takeWhile_append_dropWhile
  have hlead : ∀ c ∈ line.takeWhile isBlank, isBlank c = true ∨ c = '*' := fun c hc =>
    .inl (List.mem_takeWhile_imp hc)
  rw [stripGutter]
  split
  · next rest h =>
    refine ⟨line.takeWhile isBlank ++ ['*'], rest, ?_, ?_, rfl⟩
    · rw [List.append_assoc, List.singleton_append, ← h, hline]
    · intro c hc
      rcases List.mem_append.mp hc with hc | hc
      · exact hlead c hc
      · exact .inr (List.mem_singleton.mp hc)
  · exact ⟨_, _, hline.symm, hlead, rfl⟩

theorem trimmed_stripGutter (line : List Char) : Trimmed (stripGutter line) := by
  obtain ⟨-, rest, -, -, h⟩ := stripGutter_eq_trim line
  rw [h]
  exact trimmed_trim rest

theorem stripGutter_isPart (line : List Char) : stripGutter line <:+: line := by
  obtain ⟨gutter, rest, hline, -, h⟩ := stripGutter_eq_trim line
  have hrest : rest <:+ line := ⟨gutter, hline.symm⟩
  rw [h]
  exact (trim_isPart rest).trans hrest.isInfix

/-- A line of a description: no line end, no blanks at the ends, and no tag at the start. -/
structure DescribingLine (line : List Char) : Prop where
  inside : '\n' ∉ line
  trimmed : Trimmed line
  untagged : line.head? ≠ some '@'

theorem describingLine_of_mem (h : line ∈ linesBeforeTags body) : DescribingLine line := by
  have hu := List.mem_takeWhile_imp h
  obtain ⟨whole, hw, rfl⟩ := List.mem_map.mp ((List.takeWhile_subset _) h)
  obtain ⟨before, after, hat⟩ := mem_lines_iff.mp hw
  constructor
  · exact fun hn => hat.inside ((stripGutter_isPart whole).subset hn)
  · exact trimmed_stripGutter whole
  · simpa using hu

end Gutters

/-! ## The description -/

section Description

variable {body : List Char} {ls : List (List Char)}

theorem collect_descriptionLines (body : List Char) : descriptionLines.collect (lines body) =
    some ((linesBeforeTags body).dropWhile List.isEmpty) :=
  descriptionLines.collect_of_reference rfl

/-- Of lines without blanks at their ends, trimming the text they are joined to takes off the empty
ones at the end. -/
theorem trimEnd_joinLines (h : ∀ line ∈ ls, Trimmed line) :
    trimEnd (joinLines ls) = joinLines (ls.rdropWhile List.isEmpty) := by
  induction ls using List.reverseRecOn with
  | nil => rfl
  | append_singleton ls line ih =>
    have hls : ∀ line ∈ ls, Trimmed line := fun l hl => h l (List.mem_append_left _ hl)
    by_cases hl : line = []
    · subst hl
      rw [List.rdropWhile_concat_pos _ _ _ rfl, ← ih hls]
      by_cases hn : ls = []
      · subst hn
        rfl
      · rw [joinLines_concat hn, trimEnd_eq_rdropWhile, trimEnd_eq_rdropWhile]
        exact List.rdropWhile_concat_pos isBlank _ _ rfl
    · have hlast := (h line (List.mem_append_right _ (List.mem_singleton_self line))).last
      rw [List.rdropWhile_concat_neg _ _ _ (by simpa using hl)]
      refine trimEnd_eq_self ?_
      by_cases hn : ls = []
      · subst hn
        exact hlast
      · rw [joinLines_concat hn]
        obtain ⟨front, d, rfl⟩ := (List.eq_nil_or_concat' line).resolve_left hl
        simpa [List.getLast?_cons] using hlast

theorem descriptionOf_eq (body : List Char) :
    descriptionOf body = joinLines (describingLines body) := by
  rw [descriptionOf, collect_descriptionLines, Option.getD_some, trimEnd_joinLines, describingLines]
  intro line hl
  exact (describingLine_of_mem ((List.dropWhile_suffix _).subset hl)).trimmed

/-! ### Normal form -/

/-- No blanks at the ends of a text or of its lines, no line that begins with a tag, and none that is
empty at either end. -/
structure NormalForm (text : List Char) : Prop where
  trimmed : Trimmed text
  lines : ∀ line ∈ text.splitOn '\n', Trimmed line ∧ line.head? ≠ some '@'
  first : text ≠ [] → ∀ line ∈ (text.splitOn '\n').head?, line ≠ []
  last : text ≠ [] → ∀ line ∈ (text.splitOn '\n').getLast?, line ≠ []

/-- Lines that the description of a body may have. -/
structure Describing (ls : List (List Char)) : Prop where
  each : ∀ line ∈ ls, DescribingLine line
  first : ∀ line ∈ ls.head?, line ≠ []
  last : ∀ line ∈ ls.getLast?, line ≠ []

theorem describing_describingLines (body : List Char) : Describing (describingLines body) := by
  have hfront : describingLines body <+: (linesBeforeTags body).dropWhile List.isEmpty :=
    List.rdropWhile_prefix _ _
  constructor
  · intro line hl
    exact describingLine_of_mem ((List.dropWhile_suffix _).subset (hfront.subset hl))
  · rintro line hl rfl
    obtain ⟨others, ho⟩ := hfront
    have hnot := List.head?_dropWhile_not List.isEmpty (linesBeforeTags body)
    rw [← ho, List.head?_append, hl, Option.some_or] at hnot
    cases hnot
  · rintro line hl rfl
    have hne : describingLines body ≠ [] := by
      rintro hnil
      rw [hnil] at hl
      cases hl
    rw [List.getLast?_eq_some_getLast hne] at hl
    have hnot : ¬ ((describingLines body).getLast hne).isEmpty = true :=
      List.rdropWhile_last_not _ _ hne
    rw [Option.some.inj hl] at hnot
    exact hnot rfl

theorem Describing.splitOn_joinLines (h : Describing ls) (hne : ls ≠ []) :
    (joinLines ls).splitOn '\n' = ls := by
  rw [joinLines_eq_intercalate]
  exact List.splitOn_intercalate '\n' (fun line hl => (h.each line hl).inside) hne

theorem Describing.head?_joinLines (h : Describing ls) :
    ∀ c ∈ (joinLines ls).head?, isBlank c = false := by
  cases ls with
  | nil => exact nofun
  | cons line ls =>
    have hfirst := (h.each line List.mem_cons_self).trimmed.first
    by_cases hn : ls = []
    · subst hn
      exact hfirst
    · obtain ⟨d, rest, rfl⟩ := List.exists_cons_of_ne_nil (h.first line rfl)
      rw [joinLines_cons hn]
      exact hfirst

/-- A text made of such lines is in normal form. -/
theorem Describing.normalForm (h : Describing ls)
    (hend : ∀ c ∈ (joinLines ls).getLast?, isBlank c = false) : NormalForm (joinLines ls) := by
  by_cases hne : ls = []
  · subst hne
    refine ⟨⟨nofun, nofun⟩, fun line hl => ?_, absurd rfl, absurd rfl⟩
    obtain rfl := List.mem_singleton.mp hl
    exact ⟨⟨nofun, nofun⟩, nofun⟩
  · constructor
    · exact ⟨h.head?_joinLines, hend⟩
    · intro line hl
      rw [h.splitOn_joinLines hne] at hl
      exact ⟨(h.each line hl).trimmed, (h.each line hl).untagged⟩
    · rw [h.splitOn_joinLines hne]
      exact fun _ => h.first
    · rw [h.splitOn_joinLines hne]
      exact fun _ => h.last

/-! ### Back behind the gutter -/

/-- A line behind a gutter. -/
def behindGutter (line : List Char) : List Char := ' ' :: '*' :: ' ' :: line

/-- The text with all its lines behind gutters. -/
def behindGutters (text : List Char) : List Char :=
  joinLines ((text.splitOn '\n').map behindGutter)

theorem stripGutter_behindGutter {line : List Char} (h : Trimmed line) :
    stripGutter (behindGutter line) = line := h.trim_eq

/-- Lines of a description are lines of the description again when they are put behind gutters. -/
theorem Describing.describingLines_eq (h : Describing ls) :
    describingLines (joinLines (ls.map behindGutter)) = ls := by
  have hlines : lines (joinLines (ls.map behindGutter)) = ls.map behindGutter := by
    refine lines_joinLines fun line hl => ?_
    obtain ⟨line, hmem, rfl⟩ := List.mem_map.mp hl
    have hline := h.each line hmem
    refine ⟨?_, nofun, fun hr => ?_⟩
    · simpa [behindGutter] using hline.inside
    · rcases List.eq_nil_or_concat' line with rfl | ⟨front, c, rfl⟩
      · exact absurd hr (by decide)
      · have hc : isBlank c = false := hline.trimmed.last c List.getLast?_concat
        obtain rfl : c = '\r' := by simpa [behindGutter, List.getLast?_cons] using hr
        exact absurd hc (by decide)
  have hstrip : (ls.map behindGutter).map stripGutter = ls := by
    rw [List.map_map]
    refine (List.map_congr_left fun line hl => ?_).trans (List.map_id ls)
    exact stripGutter_behindGutter (h.each line hl).trimmed
  have hbefore : linesBeforeTags (joinLines (ls.map behindGutter)) = ls := by
    rw [linesBeforeTags, hlines, hstrip, List.takeWhile_eq_self_iff]
    intro line hl
    simpa using (h.each line hl).untagged
  have hfirst : ls.dropWhile List.isEmpty = ls := by
    cases ls with
    | nil => rfl
    | cons line ls =>
      rw [List.dropWhile_cons, List.isEmpty_eq_false_iff.mpr (h.first line rfl)]
      rfl
  rw [describingLines, hbefore, hfirst, List.rdropWhile_eq_self_iff]
  intro hne hempty
  exact h.last _ (List.getLast?_eq_some_getLast hne) (List.isEmpty_iff.mp hempty)

end Description

theorem value_ofBody (body : String) : (ofBody body).value =
    ⟨String.ofList (joinLines (describingLines body.toList)), tagsOf body.toList⟩ := by
  rw [← descriptionOf_eq]
  rfl

theorem description_ofBody (body : String) :
    (ofBody body).value.description = String.ofList (descriptionOf body.toList) := rfl

/-- Whatever the body, its description is in normal form, and it is the description of its own lines
put behind gutters. -/
theorem description_normal (body : String) :
    NormalForm (ofBody body).value.description.toList ∧
      (ofBody (String.ofList
        (behindGutters (ofBody body).value.description.toList))).value.description =
        (ofBody body).value.description := by
  have hd := describing_describingLines body.toList
  have heq := descriptionOf_eq body.toList
  have hend : ∀ c ∈ (joinLines (describingLines body.toList)).getLast?, isBlank c = false := by
    rw [← heq]
    exact last_trimEnd _
  simp only [description_ofBody, String.toList_ofList]
  rw [heq]
  refine ⟨hd.normalForm hend, congrArg String.ofList ?_⟩
  by_cases hne : describingLines body.toList = []
  · rw [hne, descriptionOf_eq]
    decide
  · rw [descriptionOf_eq, behindGutters, hd.splitOn_joinLines hne, hd.describingLines_eq]

/-- Lines that end in a carriage return, and one with a second star, in front of a tag. -/
example : (ofBody "\r\n * * Adds.\r\r\n *\n *  Twice.\n*\n*@x").value.description =
    "* Adds.\n\nTwice." := by
  rw [value_ofBody]
  decide +kernel

end ParseFlow.Grammar.JsDoc
