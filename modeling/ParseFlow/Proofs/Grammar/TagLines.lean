import ParseFlow.Proofs.Grammar.BlockComment
import ParseFlow.Proofs.Grammar.Description
import ParseFlow.Proofs.Grammar.Tags

/-!
# Where the description ends and the tags begin

The description ends at the first line that begins with an at sign behind its gutter, and the tags
are read in the whole body. So a tag in the middle of a line before that one is read and stays in
the description, and a tag directly behind the star of a gutter, or between the braces of another
tag, ends the description and is not read.
-/
namespace ParseFlow.Grammar.JsDoc

open Text Regex

/-- A tag stands somewhere in the text. -/
def HasTag (text : List Char) : Prop := ∃ before after, TagAt text before after

/-- What stands in a line before its first at sign. -/
def gutterOf (line : List Char) : List Char := line.takeWhile (· != '@')

/-! ## Tags in a description -/

section Descriptions

variable {xs ys : List Char} {ls : List (List Char)} {line body : List Char}

theorem not_hasTag_nil : ¬ HasTag [] := by
  rintro ⟨before, after, hsplit, -⟩
  exact List.append_ne_nil_of_right_ne_nil before (List.cons_ne_nil '@' after) hsplit.symm

/-- A line end separates tags. -/
theorem hasTag_newline : HasTag (xs ++ '\n' :: ys) ↔ HasTag xs ∨ HasTag ys := by
  constructor
  · rintro ⟨before, after, hsplit, hs, c, hc, hw⟩
    rcases append_eq_append_cons hsplit with ⟨r, hr, rfl⟩ | ⟨r, rfl, hr⟩
    · refine .inl ⟨before, r, hr, hs, ?_⟩
      cases r with
      | nil =>
        cases hc
        exact absurd hw (by decide)
      | cons d r => exact ⟨c, hc, hw⟩
    · cases r with
      | nil => cases hr
      | cons d r =>
        obtain ⟨rfl, rfl⟩ := List.cons.inj hr
        refine .inr ⟨r, after, rfl, fun d hd => hs d ?_, c, hc, hw⟩
        rw [List.getLast?_append, List.getLast?_cons, hd]
        rfl
  · rintro (⟨before, after, rfl, hs, c, hc, hw⟩ | ⟨before, after, rfl, hs, hn⟩)
    · obtain ⟨after, rfl⟩ := List.head?_eq_some_iff.mp hc
      exact ⟨before, c :: after ++ '\n' :: ys, by simp, hs, c, rfl, hw⟩
    · refine ⟨xs ++ '\n' :: before, after, by simp, fun d hd => ?_, hn⟩
      rcases List.eq_nil_or_concat' before with rfl | ⟨front, b, rfl⟩
      · rw [List.getLast?_append] at hd
        cases hd
        decide
      · refine hs d ?_
        rw [← List.cons_append, ← List.append_assoc, List.getLast?_concat] at hd
        rw [List.getLast?_concat]
        exact hd

theorem hasTag_joinLines : HasTag (joinLines ls) ↔ ∃ line ∈ ls, HasTag line := by
  induction ls with
  | nil => simp [joinLines, not_hasTag_nil]
  | cons line ls ih =>
    rw [List.exists_mem_cons_iff]
    by_cases hne : ls = []
    · subst hne
      simp [joinLines]
    · rw [joinLines_cons hne, hasTag_newline, ih]

theorem mem_describingLines (hl : line ≠ []) :
    line ∈ describingLines body ↔ line ∈ linesBeforeTags body := by
  have hfull : line.isEmpty ≠ true := by simpa using hl
  constructor
  · intro h
    exact (List.dropWhile_suffix _).subset ((List.rdropWhile_prefix _ _).subset h)
  · intro h
    have hfront : line ∈ (linesBeforeTags body).dropWhile List.isEmpty := by
      rw [← @List.takeWhile_append_dropWhile _ List.isEmpty (linesBeforeTags body)] at h
      exact (List.mem_append.mp h).resolve_left fun hd => hfull (List.mem_takeWhile_imp hd)
    rw [← @List.rdropWhile_append_rtakeWhile _ List.isEmpty
      ((linesBeforeTags body).dropWhile List.isEmpty)] at hfront
    exact (List.mem_append.mp hfront).resolve_right fun hd => hfull (List.mem_rtakeWhile_imp hd)

/-- The tags of a description stand in the middle of its lines. -/
theorem hasTag_descriptionOf :
    HasTag (descriptionOf body) ↔
      ∃ line ∈ linesBeforeTags body, ∃ before after, before ≠ [] ∧ TagAt line before after := by
  rw [descriptionOf_eq, hasTag_joinLines]
  constructor
  · rintro ⟨line, hl, before, after, ht⟩
    have hne : line ≠ [] := by
      rintro rfl
      exact not_hasTag_nil ⟨before, after, ht⟩
    have hmem := (mem_describingLines hne).mp hl
    refine ⟨line, hmem, before, after, ?_, ht⟩
    rintro rfl
    refine (describingLine_of_mem hmem).untagged ?_
    rw [ht.split]
    rfl
  · rintro ⟨line, hl, before, after, -, ht⟩
    have hne : line ≠ [] := by
      rintro rfl
      exact not_hasTag_nil ⟨before, after, ht⟩
    exact ⟨line, (mem_describingLines hne).mpr hl, before, after, ht⟩

end Descriptions

/-! ## Lines that begin with a tag -/

section TaggedLines

variable {before line after text body : List Char}

/-- In a line that begins with an at sign behind its gutter, the gutter and blanks surround the
rest. -/
theorem exists_trail (h : stripGutter line = '@' :: text) :
    ∃ trail, line = gutterOf line ++ '@' :: text ++ trail ∧
      (∀ c ∈ gutterOf line, isBlank c = true ∨ c = '*') ∧ ∀ c ∈ trail, isBlank c = true := by
  obtain ⟨gutter, rest, hline, hgutter, htrim⟩ := stripGutter_eq_trim line
  obtain ⟨lead, trail, hrest, hlead, htrail⟩ := (trimsTo_trim rest).split
  have hg : ∀ c ∈ gutter ++ lead, isBlank c = true ∨ c = '*' := by
    intro c hc
    rcases List.mem_append.mp hc with hc | hc
    · exact hgutter c hc
    · exact .inl (hlead c hc)
  have hsplit : line = gutter ++ lead ++ ('@' :: text ++ trail) := by
    rw [← h, htrim, hline, List.append_assoc, ← List.append_assoc lead, ← hrest]
  have hnot : ∀ c ∈ gutter ++ lead, (c != '@') = true := by
    intro c hc
    rw [bne_iff_ne]
    rintro rfl
    rcases hg _ hc with hb | hb
    · exact absurd hb (by decide)
    · cases hb
  have heq : gutterOf line = gutter ++ lead := by
    rw [gutterOf, hsplit, List.takeWhile_append_of_pos hnot]
    exact List.append_nil _
  rw [heq]
  exact ⟨trail, by rw [List.append_assoc, ← hsplit], hg, htrail⟩

/-- A name ends where a character follows that does not belong to words. -/
theorem nameOf_append {rest : List Char} (hr : ∀ c ∈ rest.head?, isWord c = false) :
    nameOf (text ++ rest) = nameOf text := by
  induction text with
  | nil =>
    cases rest with
    | nil => rfl
    | cons c rest => exact List.takeWhile_cons_of_neg (Bool.eq_false_iff.mp (hr c rfl))
  | cons c text ih =>
    rw [nameOf, nameOf] at ih
    rw [nameOf, nameOf, List.cons_append, List.takeWhile_cons, List.takeWhile_cons, ih]

theorem LineAt.head?_after (h : LineAt body before line after) :
    ∀ c ∈ after.head?, isWord c = false := by
  cases h.stop with
  | text => exact nofun
  | newline =>
    intro c hc
    cases hc
    decide
  | carriageReturn =>
    intro c hc
    cases hc
    decide

/-- A line that begins with a tag has it in the body, unless a star stands in front of it. -/
theorem LineAt.tagAt (h : LineAt body before line after) (hs : stripGutter line = '@' :: text)
    (hn : ∃ c ∈ text.head?, isWord c = true) (hg : (gutterOf line).getLast? ≠ some '*') :
    ∃ rest, TagAt body (before ++ gutterOf line) (text ++ rest) ∧
      nameOf (text ++ rest) = nameOf text := by
  obtain ⟨trail, hline, hgutter, htrail⟩ := exists_trail hs
  refine ⟨trail ++ after, ⟨?_, ?_, ?_⟩, nameOf_append ?_⟩
  · rw [h.split]
    nth_rewrite 1 [hline]
    simp
  · intro c hc
    rcases List.eq_nil_or_concat' (gutterOf line) with hnil | ⟨front, b, hb⟩
    · rw [hnil, List.append_nil] at hc
      rw [h.start c hc]
      decide
    · rw [hb, ← List.append_assoc, List.getLast?_concat] at hc
      rw [hb, List.getLast?_concat] at hg
      cases hc
      refine (hgutter c ?_).resolve_right fun hstar => hg (congrArg some hstar)
      rw [hb]
      exact List.mem_append_right _ (List.mem_singleton_self c)
  · obtain ⟨c, hc, hw⟩ := hn
    refine ⟨c, ?_, hw⟩
    rw [List.head?_append, hc]
    rfl
  · cases trail with
    | nil => exact h.head?_after
    | cons d trail =>
      intro c hc
      cases hc
      exact isWord_of_isBlank (htrail d List.mem_cons_self)

end TaggedLines

/-! ## Both halves of a body -/

/-- How the description and the tags of a body go together. The description has no tags but those in
the middle of its lines. The entries are the tags of the whole body that do not stand between braces;
among them is the tag at the start of a line, unless it stands directly behind the star of the gutter
or between braces. -/
structure Divided (body : List Char) (d : JsDoc) : Prop where
  description : HasTag d.description.toList ↔
    ∃ line ∈ linesBeforeTags body, ∃ before after, before ≠ [] ∧ TagAt line before after
  entries : ∀ name, (d.tag? name).isSome = true ↔
    ∃ before after, TagAt body before after ∧ ¬ InBraces body before.length ∧
      name = String.ofList (nameOf after)
  tagged : ∀ before line after text, LineAt body before line after →
    stripGutter line = '@' :: text → (∃ c ∈ text.head?, isWord c = true) →
    (gutterOf line).getLast? ≠ some '*' → ¬ InBraces body (before ++ gutterOf line).length →
    (d.tag? (String.ofList (nameOf text))).isSome = true

theorem divided_ofBody (body : String) : Divided body.toList (ofBody body).value := by
  have hentries : ∀ name, ((ofBody body).value.tag? name).isSome = true ↔
      ∃ before after, TagAt body.toList before after ∧ ¬ InBraces body.toList before.length ∧
        name = String.ofList (nameOf after) := fun name => isSome_lookup_tagsOf
  constructor
  · rw [description_ofBody, String.toList_ofList]
    exact hasTag_descriptionOf
  · exact hentries
  · intro before line after text hline hs hn hg hb
    obtain ⟨rest, ht, hname⟩ := hline.tagAt hs hn hg
    exact (hentries _).mpr ⟨_, _, ht, hb, congrArg String.ofList hname.symm⟩

/-- A line between the braces of a tag begins with another one, which is not read. -/
example : (ofBody "@a \x7bx\n * @b\x7d").value = ⟨"", [("a", "x\n * @b")]⟩ := by
  rw [value_ofBody]
  decide +kernel

/-- The value of a documentation comment is read from what stands between its markers. -/
theorem value?_doc {v : View Char} {body : String}
    (h : (((Parser.pattern bodyRegex).between (.string "/**")
      (.pattern closingRegex)).parse v).value.value? = some body) :
    (doc.parse v).value.value? = some (ofBody body).value := by
  rw [Parser.value_parse] at h
  rw [Parser.value_parse, doc, Parser.value_mapTraced, Outcome.value?_map, h]
  rfl

/-- Of every documentation comment that is accepted, the description and the tags are those of its
body. -/
theorem doc_divided {v : View Char} (hv : v.Valid) {d : JsDoc}
    (h : (doc.parse v).value.value? = some d) :
    ∃ body, ((Parser.pattern bodyRegex).parse (v.behind docOpening)).value.value? = some body ∧
      d = (ofBody body).value ∧ Divided body.toList d := by
  obtain ⟨body, hbody, rfl⟩ := exists_body_of_doc hv h
  exact ⟨body, hbody, rfl, divided_ofBody body⟩

/-- A tag in the middle of a line of the description, and one at the start of the last line. -/
theorem doc_divided_mid_line :
    let v : View Char := .ofSource ⟨0, "/** See @link\n * é\n * @type \x7bMap\x7d */".toList⟩
    let d : JsDoc := ⟨"See @link\né", [("link", ""), ("type", "Map")]⟩
    v.Valid ∧ (doc.parse v).value.value? = some d ∧
      ∃ body, ((Parser.pattern bodyRegex).parse (v.behind docOpening)).value.value? = some body ∧
        d = (ofBody body).value ∧ Divided body.toList d := by
  intro v d
  have hv : v.Valid := View.valid_ofSource _
  have hbody : (((Parser.pattern bodyRegex).between (.string "/**")
      (.pattern closingRegex)).parse v).value.value? =
        some " See @link\n * é\n * @type \x7bMap\x7d " := by
    decide +kernel
  have hd : (doc.parse v).value.value? = some d := by
    rw [value?_doc hbody, value_ofBody]
    decide +kernel
  exact ⟨hv, hd, doc_divided hv hd⟩

/-- A tag in the middle of a line is left in the description, and one directly behind the star of a
gutter has no entry. -/
theorem doc_misses_tag_behind_star :
    let v : View Char := .ofSource ⟨0, "/** See @link\n *@type \x7bMap\x7d */".toList⟩
    let d : JsDoc := ⟨"See @link", [("link", "")]⟩
    let line : List Char := " *@type \x7bMap\x7d ".toList
    v.Valid ∧ (doc.parse v).value.value? = some d ∧ HasTag d.description.toList ∧
      ((Parser.pattern bodyRegex).parse (v.behind docOpening)).value.value? =
        some (" See @link\n *@type \x7bMap\x7d ") ∧
      line ∈ lines " See @link\n *@type \x7bMap\x7d ".toList ∧
      stripGutter line = '@' :: "type \x7bMap\x7d".toList ∧
      nameOf "type \x7bMap\x7d".toList = "type".toList ∧ d.tag? "type" = none := by
  intro v d line
  have hbody : (((Parser.pattern bodyRegex).between (.string "/**")
      (.pattern closingRegex)).parse v).value.value? =
        some " See @link\n *@type \x7bMap\x7d " := by
    decide +kernel
  refine ⟨View.valid_ofSource _, ?_, ?_, ?_, ?_, ?_, ?_, ?_⟩
  · rw [value?_doc hbody, value_ofBody]
    decide +kernel
  · refine ⟨['S', 'e', 'e', ' '], ['l', 'i', 'n', 'k'], by decide +kernel, ?_, 'l', rfl, by decide⟩
    rintro c ⟨⟩
    decide
  · decide +kernel
  · decide +kernel
  · decide +kernel
  · decide +kernel
  · decide +kernel

end ParseFlow.Grammar.JsDoc
