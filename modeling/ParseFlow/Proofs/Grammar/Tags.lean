import ParseFlow.Grammar.JsDoc
import ParseFlow.Proofs.Regex.Matches
import ParseFlow.Proofs.Regex.Slots
import ParseFlow.Proofs.Text.Runs
import ParseFlow.Proofs.Text.Trimming

/-!
# Tags in a body

A tag stands at an at sign that is at the start of the body or behind a blank, and that a name
follows. The search reads all tags but those inside the braces of a tag before them, and it reads
their names as far as word characters go.
-/
namespace ParseFlow.Grammar.JsDoc

open Text Regex

/-- A tag in the text, with what stands before and behind its at sign. -/
structure TagAt (text before after : List Char) : Prop where
  split : text = before ++ '@' :: after
  stands : ∀ c ∈ before.getLast?, isBlank c = true
  name : ∃ c ∈ after.head?, isWord c = true

/-- The name at the start of a text. -/
def nameOf (text : List Char) : List Char := text.takeWhile isWord

/-! ## The expression of tags -/

/-- A blank that does not end the line. -/
def gap : CharClass := .union (.union .empty (.single ' ')) (.single '\t')

def insideBraces : CharClass := .complement (.union .empty (.single '\x7d'))

def valueStart : CharClass :=
  .complement (.union (.union (.union .empty .blank) (.single '*')) (.single '@'))

def behindBrace : Expr :=
  .seq (.seq (.mark 4) (.seq (.star true (.set insideBraces)) (.mark 5))) (.set (.single '\x7d'))

def bracesAround : Expr := .seq (.set (.single '\x7b')) behindBrace

def wordAlone : Expr :=
  .seq (.mark 6) (.seq
    (.seq (.set valueStart) (.star true (.set (.complement .blank)))) (.mark 7))

/-- A value in braces, or a word with a gap before it, or nothing. -/
def tagValue : Expr :=
  .opt true (.alt (.seq (.star true (.set gap)) bracesAround)
    (.seq (.plus true (.set gap)) wordAlone))

/-- What follows the at sign. -/
def nameThenValue : Expr :=
  .seq (.seq (.mark 2) (.seq (.plus true (.set .word)) (.mark 3))) tagValue

/-- What follows the first character of the name. -/
def moreNameThenValue : Expr := .seq (.seq (.more true (.set .word)) (.mark 3)) tagValue

def atSign : Expr := .seq (.set (.single '@')) nameThenValue

def leadingBlank : Expr := .alt (.look .textStart) (.set .blank)

theorem tagRegex_expr : tagRegex.expr = .seq leadingBlank atSign := by
  decide +kernel

theorem alternatives_leadingBlank (before after : Option Char) :
    (Expr.seq leadingBlank atSign).alternatives ⟨before, after⟩ =
      (if before.isNone then [⟨[], some (.single '@', nameThenValue)⟩] else []) ++
        [⟨[], some (.blank, atSign)⟩] := by
  cases before <;> rfl

theorem alternatives_nameThenValue (s : Surroundings) :
    nameThenValue.alternatives s = [⟨[2], some (.word, moreNameThenValue)⟩] := rfl

theorem alternatives_moreNameThenValue (s : Surroundings) :
    moreNameThenValue.alternatives s =
      ⟨[], some (.word, moreNameThenValue)⟩ :: (tagValue.alternatives s).map (·.after [3]) := rfl

theorem alternatives_tagValue (s : Surroundings) :
    tagValue.alternatives s =
      [⟨[], some (gap, .seq (.more true (.set gap)) bracesAround)⟩,
        ⟨[], some (.single '\x7b', behindBrace)⟩,
        ⟨[], some (gap, .seq (.more true (.set gap)) wordAlone)⟩, .stop] := rfl

section Characters

variable {c : Char}

theorem contains_gap : gap.contains c = true ↔ c = ' ' ∨ c = '\t' := by
  simp [gap, CharClass.contains]

theorem contains_insideBraces : insideBraces.contains c = true ↔ c ≠ '\x7d' := by
  simp [insideBraces, CharClass.contains]

theorem contains_valueStart :
    valueStart.contains c = true ↔ isBlank c = false ∧ c ≠ '*' ∧ c ≠ '@' := by
  simp [valueStart, CharClass.contains]
  grind

end Characters

/-! ## Reading a name -/

section Names

variable {before : Option Char} {position : Nat} {best : Option (Nat × Slots)} {slots : Slots}
  {c : Char} {text name rest : List Char}

/-- No value begins with a character of a name. -/
theorem not_value_of_isWord (hc : isWord c = true) : gap.contains c = false ∧ c ≠ '\x7b' := by
  refine ⟨Bool.eq_false_iff.mpr fun hg => ?_, ?_⟩
  · rcases contains_gap.mp hg with rfl | rfl
    · exact absurd hc (by decide)
    · exact absurd hc (by decide)
  · rintro rfl
    exact absurd hc (by decide)

theorem preferredFrom_name_start (hc : isWord c = true) :
    preferredFrom before [⟨nameThenValue, []⟩] position best (c :: text) =
      preferredFrom (some c) [⟨moreNameThenValue, [(2, position)]⟩] (position + 1) best text := by
  simp [preferredFrom, alternatives_nameThenValue, untilStop, CharClass.contains, hc, mostPreferred]

theorem preferredFrom_name_over (hc : isWord c = true) :
    preferredFrom before [⟨moreNameThenValue, slots⟩] position best (c :: text) =
      preferredFrom (some c) [⟨moreNameThenValue, slots⟩] (position + 1)
        (some (position, (3, position) :: slots)) text := by
  obtain ⟨hg, hb⟩ := not_value_of_isWord hc
  simp [preferredFrom, alternatives_moreNameThenValue, alternatives_tagValue, Alternative.stop,
    Alternative.after, untilStop, CharClass.contains, hc, hg, hb, mostPreferred]

/-- Behind the name its end is marked, and the value is searched. -/
theorem preferredFrom_name_end (hr : ∀ c ∈ rest.head?, isWord c = false) :
    preferredFrom before [⟨moreNameThenValue, slots⟩] position best rest =
      preferredFrom before [⟨tagValue, (3, position) :: slots⟩] position none rest := by
  cases rest with
  | nil =>
    simp [preferredFrom, alternatives_moreNameThenValue, alternatives_tagValue, Alternative.stop,
      Alternative.after, untilStop]
  | cons c rest =>
    simp [preferredFrom, alternatives_moreNameThenValue, alternatives_tagValue, Alternative.stop,
      Alternative.after, untilStop, CharClass.contains, hr c rfl]

/-- The name is read as far as word characters go. -/
theorem preferredFrom_name (hn : ∀ c ∈ name, isWord c = true)
    (hr : ∀ c ∈ rest.head?, isWord c = false) :
    preferredFrom before [⟨moreNameThenValue, slots⟩] position best (name ++ rest) =
      preferredFrom (lastOf before name) [⟨tagValue, (3, position + name.length) :: slots⟩]
        (position + name.length) none rest := by
  induction name generalizing before position best with
  | nil => exact preferredFrom_name_end hr
  | cons c name ih =>
    obtain ⟨hc, hn⟩ := List.forall_mem_cons.mp hn
    have hlen : position + 1 + name.length = position + (c :: name).length := by
      rw [List.length_cons]
      omega
    rw [List.cons_append, preferredFrom_name_over hc, ih hn, hlen, lastOf]

theorem preferredFrom_atSign :
    preferredFrom before [⟨atSign, []⟩] position best ('@' :: text) =
      preferredFrom (some '@') [⟨nameThenValue, []⟩] (position + 1) best text := rfl

theorem preferred_tag_atStart :
    tagRegex.expr.preferred none position ('@' :: text) =
      preferredFrom (some '@') [⟨nameThenValue, []⟩] (position + 1) none text := by
  rw [tagRegex_expr]
  rfl

theorem preferred_tag_blank (hc : isBlank c = true) :
    tagRegex.expr.preferred before position (c :: '@' :: text) =
      preferredFrom (some '@') [⟨nameThenValue, []⟩] (position + 2) none text := by
  have hne : c ≠ '@' := by
    rintro rfl
    exact absurd hc (by decide)
  rw [tagRegex_expr, Expr.preferred, ← @preferredFrom_atSign (some c)]
  cases before <;>
    simp [preferredFrom, alternatives_leadingBlank, untilStop, CharClass.contains, hc, hne,
      mostPreferred]

/-- Where a tag stands the search goes on with its name. -/
theorem TagAt.foundAt_eq {before after : List Char} (h : TagAt text before after) :
    tagRegex.expr.foundAt text (before.length - 1) =
      preferredFrom (some '@') [⟨nameThenValue, []⟩] (before.length + 1) none after := by
  obtain ⟨rfl, hs, -⟩ := h
  rcases List.eq_nil_or_concat' before with rfl | ⟨front, b, rfl⟩
  · exact preferred_tag_atStart
  · have hb : isBlank b = true := hs b List.getLast?_concat
    have hlen : (front ++ [b]).length = front.length + 1 := List.length_append
    rw [hlen, Nat.add_sub_cancel, List.append_assoc, Expr.foundAt_length]
    exact preferred_tag_blank hb

/-- The search for the value finds something, and leaves the slots of the name alone. -/
theorem preferredFrom_value {start stop : Nat} :
    ∃ found, preferredFrom before [⟨tagValue, [(3, stop), (2, start)]⟩] position none text =
      some found ∧ found.2.lookup 2 = some start ∧ found.2.lookup 3 = some stop := by
  have hsome : (preferredFrom before [⟨tagValue, [(3, stop), (2, start)]⟩] position none
      text).isSome = true := by
    rcases preferredFrom_spec text before [⟨tagValue, [(3, stop), (2, start)]⟩] position none with
      ⟨n, slots, -, hp⟩ | ⟨hno, -⟩
    · rw [hp, Option.isSome_some]
    · exact absurd ⟨[], text, rfl, rfl, tagValue, List.mem_singleton_self _, .optNone⟩ (hno 0)
  obtain ⟨found, hp⟩ := Option.isSome_iff_exists.mp hsome
  have hkept : ∀ slot, tagValue.marks slot = false →
      found.2.lookup slot = [(3, stop), (2, start)].lookup slot := by
    intro slot hm
    refine lookup_preferredFrom ?_ ?_ before position text found hp
    · intro t ht
      obtain rfl := List.mem_singleton.mp ht
      exact ⟨hm, rfl⟩
    · intro best hb
      exact absurd hb (Option.not_mem_none best)
  exact ⟨found, hp, hkept 2 rfl, hkept 3 rfl⟩

/-- Where a tag stands something is found, and its first group is the name. -/
theorem TagAt.exists_foundAt {before after : List Char} (h : TagAt text before after) :
    ∃ found, tagRegex.expr.foundAt text (before.length - 1) = some found ∧
      found.2.lookup 2 = some (before.length + 1) ∧
      found.2.lookup 3 = some (before.length + 1 + (nameOf after).length) := by
  obtain ⟨c, hc, hw⟩ := h.name
  obtain ⟨tail, rfl⟩ := List.head?_eq_some_iff.mp hc
  have hname : nameOf (c :: tail) = c :: nameOf tail := List.takeWhile_cons_of_pos hw
  have hrest : ∀ d ∈ (tail.dropWhile isWord).head?, isWord d = false := by
    intro d hd
    have hnot := List.head?_dropWhile_not isWord tail
    rw [hd] at hnot
    exact hnot
  have hrun : ∀ d ∈ nameOf tail, isWord d = true := fun d hd => List.mem_takeWhile_imp hd
  have hsplit : tail = nameOf tail ++ tail.dropWhile isWord := List.takeWhile_append_dropWhile.symm
  have hlen : before.length + 1 + 1 + (nameOf tail).length =
      before.length + 1 + (nameOf (c :: tail)).length := by
    rw [hname, List.length_cons]
    omega
  rw [h.foundAt_eq, preferredFrom_name_start hw, hsplit, preferredFrom_name hrun hrest, hlen,
    ← hsplit]
  exact preferredFrom_value

end Names

/-! ## The text of a match -/

/-- A value between braces, behind a gap. -/
structure Braces (value gaps inside : List Char) : Prop where
  split : value = gaps ++ '\x7b' :: (inside ++ ['\x7d'])
  gaps : ∀ c ∈ gaps, c = ' ' ∨ c = '\t'
  inside : '\x7d' ∉ inside

/-- What may follow the name of a tag. -/
inductive ValueText : List Char → Prop
  | missing : ValueText []
  | braces {value gaps inside : List Char} : Braces value gaps inside → ValueText value
  | word {gaps word : List Char} : (∀ c ∈ gaps, c = ' ' ∨ c = '\t') → word ≠ [] →
      word.head? ≠ some '@' → (∀ c ∈ word, isBlank c = false) → ValueText (gaps ++ word)

/-- A match: the text of a tag, with the blank before its at sign. -/
structure TagSpan (text : List Char) (start stop : Nat) (before name value left : List Char) :
    Prop where
  tag : TagAt text before (name ++ value ++ left)
  start_eq : start = before.length - 1
  stop_eq : stop = before.length + 1 + name.length + value.length
  nonempty : name ≠ []
  name : ∀ c ∈ name, isWord c = true
  value : ValueText value

section Shape

variable {before : Option Char} {taken left : List Char}

theorem lead_of_fits (h : leadingBlank.Fits before taken left) :
    taken = [] ∧ before = none ∨ ∃ b, taken = [b] ∧ isBlank b = true := by
  cases h with
  | altLeft h =>
    cases h with
    | look hl => exact .inl ⟨rfl, Option.isNone_iff_eq_none.mp hl⟩
  | altRight h => exact .inr (Expr.fits_set_iff.mp h)

theorem valueText_of_bracesAround {gaps : List Char} (hg : ∀ c ∈ gaps, c = ' ' ∨ c = '\t')
    (h : bracesAround.Fits before taken left) : ValueText (gaps ++ taken) := by
  cases h with
  | seq hopen h =>
    obtain rfl := Expr.eq_of_fits_single hopen
    cases h with
    | seq hinside hclose =>
      obtain rfl := Expr.eq_of_fits_single hclose
      have hin := Expr.contains_of_fits_star (Expr.fits_of_group hinside)
      exact .braces ⟨rfl, hg, fun hmem => contains_insideBraces.mp (hin _ hmem) rfl⟩

theorem valueText_of_wordAlone {gaps : List Char} (hg : ∀ c ∈ gaps, c = ' ' ∨ c = '\t')
    (h : wordAlone.Fits before taken left) : ValueText (gaps ++ taken) := by
  cases Expr.fits_of_group h with
  | seq hfirst hothers =>
    obtain ⟨c, rfl, hc⟩ := Expr.fits_set_iff.mp hfirst
    obtain ⟨hblank, -, hat⟩ := contains_valueStart.mp hc
    have hn := Expr.contains_of_fits_star hothers
    refine .word hg (List.cons_ne_nil _ _) (fun hh => hat (Option.some.inj hh)) ?_
    refine List.forall_mem_cons.mpr ⟨hblank, fun d hd => ?_⟩
    simpa [CharClass.contains] using hn d hd

theorem valueText_of_fits (h : tagValue.Fits before taken left) : ValueText taken := by
  cases h with
  | optNone => exact .missing
  | optSome h =>
    cases h with
    | altLeft h =>
      cases h with
      | seq hgaps h =>
        have hg := fun c hc => contains_gap.mp (Expr.contains_of_fits_star hgaps c hc)
        exact valueText_of_bracesAround hg h
    | altRight h =>
      cases h with
      | seq hgaps h =>
        have hg := fun c hc => contains_gap.mp ((Expr.contains_of_fits_plus hgaps).2 c hc)
        exact valueText_of_wordAlone hg h

theorem tag_of_fits (h : tagRegex.expr.Fits before taken left) :
    ∃ lead name value, taken = lead ++ '@' :: (name ++ value) ∧
      (lead = [] ∧ before = none ∨ ∃ b, lead = [b] ∧ isBlank b = true) ∧
      name ≠ [] ∧ (∀ c ∈ name, isWord c = true) ∧ ValueText value := by
  rw [tagRegex_expr] at h
  cases h with
  | @seq _ _ _ lead _ _ hlead h =>
    cases h with
    | seq hat h =>
      obtain rfl := Expr.eq_of_fits_single hat
      cases h with
      | @seq _ _ _ name value _ hname hvalue =>
        obtain ⟨hne, hn⟩ := Expr.contains_of_fits_plus (Expr.fits_of_group hname)
        exact ⟨lead, name, value, rfl, lead_of_fits hlead, hne, hn, valueText_of_fits hvalue⟩

end Shape

section Spans

variable {text run rest before name value left after u w : List Char} {c : Char}
  {start stop : Nat} {slots : Slots}

/-- A blank in front of an at sign, or the start of the text. -/
theorem stands_of_lead {front lead : List Char}
    (h : lead = [] ∧ front.getLast? = none ∨ ∃ b, lead = [b] ∧ isBlank b = true) :
    (∀ c ∈ (front ++ lead).getLast?, isBlank c = true) ∧
      front.length = (front ++ lead).length - 1 := by
  rcases h with ⟨rfl, hfront⟩ | ⟨b, rfl, hb⟩
  · rw [List.append_nil, hfront, List.getLast?_eq_none_iff.mp hfront]
    exact ⟨nofun, rfl⟩
  · rw [List.getLast?_concat, List.length_append]
    exact ⟨fun c hc => Option.some.inj hc ▸ hb, rfl⟩

/-- What the search finds is the text of a tag. -/
theorem exists_tagSpan (h : tagRegex.expr.foundAt text start = some (stop, slots)) :
    ∃ before name value left, TagSpan text start stop before name value left := by
  obtain ⟨taken, left, hdrop, rfl, hfits⟩ := Expr.fits_of_foundAt h
  obtain ⟨lead, name, value, rfl, hlead, hne, hn, hv⟩ := tag_of_fits hfits
  obtain ⟨hstands, hstart⟩ := stands_of_lead hlead
  have hlen : (text.take start).length = start := by
    refine List.length_take_of_le (Nat.le_of_not_lt fun hlt => ?_)
    rw [List.drop_eq_nil_of_le (Nat.le_of_lt hlt)] at hdrop
    simp at hdrop
  have htext := List.take_append_drop start text
  rw [hdrop] at htext
  refine ⟨text.take start ++ lead, name, value, left, ⟨?_, hstands, ?_⟩, ?_, ?_, hne, hn, hv⟩
  · refine htext.symm.trans ?_
    simp
  · obtain ⟨d, name, rfl⟩ := List.exists_cons_of_ne_nil hne
    exact ⟨d, rfl, hn d List.mem_cons_self⟩
  · rw [← hstart, hlen]
  · simp only [List.length_append, List.length_cons, hlen]
    omega

/-- A character of two joined texts stands in the first or in the second. -/
theorem append_eq_append_cons (h : run ++ rest = u ++ c :: w) :
    (∃ r, run = u ++ c :: r ∧ w = r ++ rest) ∨ ∃ r, u = run ++ r ∧ rest = r ++ c :: w := by
  rcases List.append_eq_append_iff.mp h with hr | ⟨r, rfl, hr⟩
  · exact .inr hr
  · cases r with
    | nil => exact .inr ⟨[], by simp, hr.symm⟩
    | cons d r =>
      obtain ⟨rfl, rfl⟩ := List.cons.inj hr
      exact .inl ⟨r, rfl, rfl⟩

theorem behind_of_not_mem (h : run ++ rest = u ++ c :: w) (hc : c ∉ run) :
    ∃ r, u = run ++ r ∧ rest = r ++ c :: w := by
  rcases append_eq_append_cons h with ⟨r, rfl, -⟩ | hr
  · simp at hc
  · exact hr

theorem mem_of_append_eq_cons (h : run ++ rest = c :: after) (hr : run ≠ []) : c ∈ run := by
  obtain ⟨d, run, rfl⟩ := List.exists_cons_of_ne_nil hr
  obtain ⟨rfl, -⟩ := List.cons.inj h
  exact List.mem_cons_self

/-- What stands behind a blank and begins with an at sign does not end at once with a brace. -/
theorem two_le_length_of_closing {inside : List Char} (h : inside ++ ['\x7d'] = u ++ c :: w)
    (hc : isBlank c = true) (hw : w ++ left = '@' :: after) : 2 ≤ w.length := by
  rcases append_eq_append_cons h with ⟨r, -, rfl⟩ | ⟨r, -, hr⟩
  · have hne : r ≠ [] := by
      rintro rfl
      cases hw
    have hpos := List.length_pos_of_ne_nil hne
    rw [List.length_append, List.length_singleton]
    omega
  · -- Nothing follows the brace.
    obtain ⟨rfl, hr⟩ := (List.append_eq_singleton_iff.mp hr.symm).resolve_right (by simp)
    obtain ⟨rfl, -⟩ := List.cons.inj hr
    exact absurd hc (by decide)

/-- In a value a blank stands in front of an at sign only between braces. -/
theorem ValueText.braces_of_blank (h : ValueText value) (hv : value = u ++ c :: w)
    (hc : isBlank c = true) (hw : w ++ left = '@' :: after) :
    ∃ gaps inside, Braces value gaps inside ∧ gaps.length ≤ u.length ∧ 2 ≤ w.length := by
  have hgap : ∀ {gaps r : List Char}, (∀ d ∈ gaps, d = ' ' ∨ d = '\t') → gaps = u ++ c :: r →
      '@' ∉ r := by
    rintro gaps r hg rfl hat
    rcases hg '@' (by simp [hat]) with h | h <;> cases h
  cases h with
  | missing => simp at hv
  | @braces _ gaps inside hb =>
    have hrest := hb.split.symm.trans hv
    rcases append_eq_append_cons hrest with ⟨r, hgaps, rfl⟩ | ⟨r, rfl, hr⟩
    · -- Behind the gap there is a brace.
      have hnil : r = [] := by
        by_contra hne
        rw [List.append_assoc] at hw
        exact hgap hb.gaps hgaps (mem_of_append_eq_cons hw hne)
      subst hnil
      cases hw
    · refine ⟨gaps, inside, hb, ?_, ?_⟩
      · rw [List.length_append]
        exact Nat.le_add_right _ _
      · cases r with
        | nil =>
          obtain ⟨rfl, -⟩ := List.cons.inj hr
          exact absurd hc (by decide)
        | cons d r => exact two_le_length_of_closing (List.cons.inj hr).2 hc hw
  | @word gaps word hg hne hat hword =>
    rcases append_eq_append_cons hv with ⟨r, hgaps, rfl⟩ | ⟨r, rfl, rfl⟩
    · have hnil : r = [] := by
        by_contra hne
        rw [List.append_assoc] at hw
        exact hgap hg hgaps (mem_of_append_eq_cons hw hne)
      subst hnil
      obtain ⟨d, word, rfl⟩ := List.exists_cons_of_ne_nil hne
      obtain ⟨rfl, -⟩ := List.cons.inj hw
      exact absurd rfl hat
    · have hnot := hword c (by simp)
      rw [hc] at hnot
      cases hnot

/-- Inside a match a blank stands in front of an at sign only between its braces. -/
theorem TagSpan.braces_of_blank (h : TagSpan text start stop before name value left)
    (ht : text = u ++ c :: '@' :: after) (hc : isBlank c = true) (hstart : start < u.length)
    (hstop : u.length < stop) :
    ∃ gaps inside, Braces value gaps inside ∧
      before.length + name.length + gaps.length + 2 ≤ u.length + 1 ∧ u.length + 2 < stop := by
  have hname : c ∉ '@' :: name := by
    intro hmem
    rcases List.mem_cons.mp hmem with rfl | hmem
    · exact absurd hc (by decide)
    · exact absurd (h.name c hmem) (by simp [isWord_of_isBlank hc])
  have hsplit := h.tag.split.symm.trans ht
  rcases append_eq_append_cons hsplit with ⟨r, rfl, -⟩ | ⟨r, rfl, hr⟩
  · -- The blank would stand in front of the match.
    have hs := h.start_eq
    simp only [List.length_append, List.length_cons] at hs
    omega
  · rw [List.append_assoc, ← List.cons_append] at hr
    obtain ⟨r, rfl, hvalue⟩ := behind_of_not_mem hr hname
    have hs := h.stop_eq
    rcases append_eq_append_cons hvalue with ⟨w, hv, hw⟩ | ⟨r, rfl, -⟩
    · obtain ⟨gaps, inside, hb, hgaps, hlen⟩ := h.value.braces_of_blank hv hc hw.symm
      refine ⟨gaps, inside, hb, ?_, ?_⟩
      · simp only [List.length_append, List.length_cons]
        omega
      · have hlenv := congrArg List.length hv
        simp only [List.length_append, List.length_cons] at hlenv hs ⊢
        omega
    · -- The blank would stand behind the match.
      simp only [List.length_append, List.length_cons] at hstop
      omega

end Spans

/-! ## All tags of a body -/

/-- The position is between the braces of a tag that is read. -/
def InBraces (body : List Char) (i : Nat) : Prop :=
  ∃ m ∈ tagRegex.expr.matches body, ∃ before name value left gaps inside,
    TagSpan body m.start m.stop before name value left ∧ Braces value gaps inside ∧
      before.length + name.length + gaps.length + 2 ≤ i ∧ i + 1 < m.stop

section Reading

variable {body before after : List Char} {m : Match} {i : Nat} {name : String}

/-- The first group of a match at a tag is the name. -/
theorem TagAt.fst_tagOf (h : TagAt body before after) (hm : m ∈ tagRegex.expr.matches body)
    (hs : m.start = before.length - 1) : (tagOf body m).1 = String.ofList (nameOf after) := by
  obtain ⟨-, hfound⟩ := (Expr.reports_matches tagRegex.expr body).found m hm
  obtain ⟨found, hf, hstart, hstop⟩ := h.exists_foundAt
  rw [hs, hf] at hfound
  obtain rfl := Option.some.inj hfound
  have hdrop : body.drop (before.length + 1) = after := by
    rw [h.split, List.drop_length_add_append]
    rfl
  have htake : after.take (nameOf after).length = nameOf after :=
    (List.prefix_iff_eq_take.mp (List.takeWhile_prefix isWord)).symm
  simp [tagOf, groupText?, Match.group?, Match.slot?, hstart, hstop, hdrop, htake]

theorem TagSpan.start_lt_stop {start stop : Nat} {word value left : List Char}
    (h : TagSpan body start stop before word value left) : start < stop := by
  have hs := h.start_eq
  have hstop := h.stop_eq
  omega

/-- A tag that does not stand between the braces of another one is read. -/
theorem TagAt.exists_match (h : TagAt body before after) (hb : ¬ InBraces body before.length) :
    ∃ m ∈ tagRegex.expr.matches body, m.start = before.length - 1 := by
  obtain ⟨⟨stop, slots⟩, hf, -⟩ := h.exists_foundAt
  obtain ⟨_, _, _, _, hspan⟩ := exists_tagSpan hf
  have hle : before.length - 1 ≤ body.length := by
    rw [h.split, List.length_append]
    omega
  rcases (Expr.reports_matches tagRegex.expr body).covers (before.length - 1) stop slots
      (Nat.zero_le _) hle hspan.start_lt_stop hf with hlt | hmem | ⟨m, hm, hin⟩
  · exact absurd hlt (Nat.not_lt_zero _)
  · exact ⟨_, hmem, rfl⟩
  · obtain ⟨-, hfound⟩ := (Expr.reports_matches tagRegex.expr body).found m hm
    obtain ⟨other, word, value, left, houter⟩ := exists_tagSpan hfound
    refine absurd ?_ hb
    rcases List.eq_nil_or_concat' before with rfl | ⟨front, b, rfl⟩
    · exact absurd hin.1 (Nat.not_lt_zero _)
    · -- The blank in front of the at sign stands inside the match.
      have hfront : (front ++ [b]).length = front.length + 1 := List.length_append
      rw [hfront, Nat.add_sub_cancel] at hin
      have hsplit : body = front ++ b :: '@' :: after := by
        rw [h.split, List.append_assoc]
        rfl
      obtain ⟨gaps, inside, hbraces, hlow, hhigh⟩ := houter.braces_of_blank hsplit
        (h.stands b List.getLast?_concat) hin.1 hin.2
      rw [hfront]
      exact ⟨m, hm, other, word, value, left, gaps, inside, houter, hbraces, hlow, hhigh⟩

/-- No tag that is read stands between the braces of another one. -/
theorem TagSpan.not_inBraces {word value left : List Char}
    (h : TagSpan body m.start m.stop before word value left)
    (hm : m ∈ tagRegex.expr.matches body) : ¬ InBraces body before.length := by
  rintro ⟨outer, ho, front, outerName, outerValue, rest, gaps, inside, hspan, -, hlow, hhigh⟩
  have hs := h.start_eq
  have hstop := h.stop_eq
  have hos := hspan.start_eq
  have hpos := List.length_pos_of_ne_nil hspan.nonempty
  rcases (Expr.reports_matches tagRegex.expr body).disjoint hm ho with rfl | hd | hd <;> omega

/-- The names that are read are those of the tags that do not stand between braces. -/
theorem exists_tagOf_iff :
    (∃ m ∈ tagRegex.expr.matches body, (tagOf body m).1 = name) ↔
      ∃ before after, TagAt body before after ∧ ¬ InBraces body before.length ∧
        name = String.ofList (nameOf after) := by
  constructor
  · rintro ⟨m, hm, rfl⟩
    obtain ⟨-, hfound⟩ := (Expr.reports_matches tagRegex.expr body).found m hm
    obtain ⟨before, word, value, left, hspan⟩ := exists_tagSpan hfound
    exact ⟨before, _, hspan.tag, hspan.not_inBraces hm, hspan.tag.fst_tagOf hm hspan.start_eq⟩
  · rintro ⟨before, after, ht, hb, rfl⟩
    obtain ⟨m, hm, hs⟩ := ht.exists_match hb
    exact ⟨m, hm, ht.fst_tagOf hm hs⟩

end Reading

/-! ## Entries -/

section Entries

variable {name : String} {entry : String × String} {tags : List (String × String)}
  {body : List Char} {ms : List Match}

theorem mem_insertTag :
    name ∈ (insertTag entry tags).map Prod.fst ↔ name = entry.1 ∨ name ∈ tags.map Prod.fst := by
  induction tags with
  | nil => simp [insertTag]
  | cons other tags ih =>
    rw [insertTag]
    split
    · rw [List.map_cons, List.mem_cons]
    · split
      · next heq => simp [heq]
      · rw [List.map_cons, List.mem_cons, ih, List.map_cons, List.mem_cons, or_left_comm]

theorem mem_foldl_insertTag :
    name ∈ (ms.foldl (fun tags m => insertTag (tagOf body m) tags) tags).map Prod.fst ↔
      (∃ m ∈ ms, (tagOf body m).1 = name) ∨ name ∈ tags.map Prod.fst := by
  induction ms generalizing tags with
  | nil => simp
  | cons m ms ih =>
    rw [List.foldl_cons, ih, mem_insertTag]
    simp only [List.mem_cons]
    grind

/-- There is an entry for every tag that does not stand between braces, and no other. -/
theorem isSome_lookup_tagsOf :
    ((tagsOf body).lookup name).isSome = true ↔
      ∃ before after, TagAt body before after ∧ ¬ InBraces body before.length ∧
        name = String.ofList (nameOf after) := by
  have hkeys : ((tagsOf body).lookup name).isSome = true ↔ name ∈ (tagsOf body).map Prod.fst := by
    rw [List.lookup_isSome_iff, List.mem_map]
    refine exists_congr fun entry => and_congr_right fun _ => ?_
    rw [beq_iff_eq, eq_comm]
  rw [hkeys, tagsOf, mem_foldl_insertTag, exists_tagOf_iff]
  simp

end Entries

end ParseFlow.Grammar.JsDoc
