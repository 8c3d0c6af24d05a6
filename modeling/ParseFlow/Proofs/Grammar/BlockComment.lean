import ParseFlow.Proofs.Grammar.Comment

/-!
# Documentation comments as block comments

Both parsers look for the first closing marker behind their opening, and the opening of a
documentation comment is one star longer. They part at an empty block comment: there the slash of
the closing marker is text to the parser of documentation comments, which runs on to the next one.
-/
namespace ParseFlow.Grammar

open Regex

section Expressions

variable {text : List Char}

theorem bodyRegex_expr :
    bodyRegex.expr = .seq (.look .textStart) (.star true bodyPiece) := by
  decide +kernel

theorem closingRegex_expr : closingRegex.expr =
    .seq (.look .textStart) (.seq (.plus true (.set (.single '*'))) slash) := by
  decide +kernel

theorem preferred_body :
    bodyRegex.expr.preferred none 0 text = searchFrom [morePieces] none 0 none text := by
  rw [bodyRegex_expr]
  cases text <;> rfl

/-- The body before a closing marker ends before the stars in front of it. -/
theorem preferred_body_closed {body : List Char} (hb : Unclosed (body ++ ['*']))
    (after : List Char) :
    ∃ pieces n, body = pieces ++ List.replicate n '*' ∧
      bodyRegex.expr.preferred none 0 (body ++ (closingMarker ++ after)) =
        some (pieces.length, []) := by
  obtain ⟨pieces, n, hsplit, hs⟩ := searchFrom_body_closed hb after
  exact ⟨pieces, n, hsplit, by rw [preferred_body, hs, Nat.zero_add]⟩

theorem preferred_body_unclosed (h : Unclosed text) :
    ∃ pieces n, text = pieces ++ List.replicate n '*' ∧
      bodyRegex.expr.preferred none 0 text = some (pieces.length, []) := by
  obtain ⟨pieces, n, hsplit, hs⟩ := searchFrom_body_unclosed h
  exact ⟨pieces, n, hsplit, by rw [preferred_body, hs, Nat.zero_add]⟩

theorem preferred_closing_star :
    closingRegex.expr.preferred none 0 ('*' :: text) =
      searchFrom [starsThenSlash] (some '*') 1 none text := by
  rw [closingRegex_expr]
  rfl

/-- Stars before the closing marker belong to the closing. -/
theorem preferred_closing (n : Nat) (after : List Char) :
    closingRegex.expr.preferred none 0 (List.replicate n '*' ++ (closingMarker ++ after)) =
      some (n + 2, []) := by
  cases n with
  | zero => exact preferred_closing_star.trans (searchFrom_empty [])
  | succ n =>
    refine preferred_closing_star.trans ((searchFrom_stars_closed n after).trans ?_)
    rw [Nat.add_comm 1 n]

theorem preferred_closing_missing (n : Nat) :
    closingRegex.expr.preferred none 0 (List.replicate n '*') = none := by
  cases n with
  | zero =>
    rw [closingRegex_expr]
    rfl
  | succ n => exact preferred_closing_star.trans (searchFrom_stars_unclosed n)

end Expressions

/-! ## The parsers -/

def docOpening : List Char := ['/', '*', '*']

/-- `rest` is what follows the first closing marker behind the opening. -/
def PastFirstClosing (v : View Char) (opening : List Char) (rest : View Char) : Prop :=
  ∃ body after, v.window = opening ++ body ++ closingMarker ++ after ∧
    Unclosed (body ++ ['*']) ∧ rest = v.behind (opening ++ body ++ closingMarker)

section Parsers

variable {v : View Char} {compiled : Regex} {slots : Slots} {taken left body after text : List Char}

/-- The opening, the body and the closing, each where the one before it stopped. -/
theorem value_doc (v : View Char) : (doc.parse v).value =
    ((Parser.string "/**").matcher v).value.flatMap fun _ inside =>
      ((Parser.pattern bodyRegex).matcher inside).value.flatMap fun body atClosing =>
        ((Parser.pattern closingRegex).matcher atClosing).value.map fun _ =>
          (JsDoc.ofBody body).value := by
  simp only [Parser.value_parse, doc, Parser.value_mapTraced, Parser.value_between,
    Parser.value_followedBy, Parser.value_then, Parser.value_precededBy, Outcome.map_flatMap,
    Outcome.flatMap_map, Outcome.flatMap_assoc, Outcome.map_map]

theorem doc_opening (hv : v.Valid) (hw : docOpening <+: v.window) :
    ((Parser.string "/**").matcher v).value = .success "/**" (v.behind docOpening) := by
  refine (Parser.recognises_string "/**").found hv ?_
  exact if_pos (List.isPrefixOf_iff_prefix.mpr hw)

theorem doc_unopened (hv : v.Valid) (hw : ¬ docOpening <+: v.window) :
    (doc.parse v).value.isSuccess = false := by
  have ho : Parser.findLiteral "/**" "/**".toList v.window = none :=
    if_neg fun hp => hw (List.isPrefixOf_iff_prefix.mp hp)
  rw [value_doc, (Parser.recognises_string "/**").missing hv ho, Outcome.flatMap]
  rfl

/-- What is read from a documentation comment is read from the text behind its opening. -/
theorem exists_body_of_doc (hv : v.Valid) {d : JsDoc}
    (h : (doc.parse v).value.value? = some d) :
    ∃ body, ((Parser.pattern bodyRegex).parse (v.behind docOpening)).value.value? = some body ∧
      d = (JsDoc.ofBody body).value := by
  have hw : docOpening <+: v.window := by
    by_contra hw
    have hfail := doc_unopened hv hw
    rw [← Outcome.isSome_value?, h] at hfail
    cases hfail
  rw [value_doc, doc_opening hv hw, Outcome.flatMap] at h
  obtain ⟨body, atClosing, hbody, h⟩ := Outcome.value?_flatMap_eq_some.mp h
  rw [Outcome.value?_map] at h
  obtain ⟨closing, -, rfl⟩ := Option.map_eq_some_iff.mp h
  refine ⟨body, ?_, rfl⟩
  rw [Parser.value_parse, hbody, Outcome.value?]

theorem doc_closed (hv : v.Valid)
    (hw : v.window = docOpening ++ body ++ closingMarker ++ after)
    (hb : Unclosed (body ++ ['*'])) :
    ∃ d, (doc.parse v).value = .success d (v.behind (docOpening ++ body ++ closingMarker)) := by
  rw [List.append_assoc, List.append_assoc] at hw
  obtain ⟨hinside, hwi⟩ := hv.behind_spec hw
  obtain ⟨pieces, n, rfl, hbody⟩ := preferred_body_closed hb after
  rw [← hwi] at hbody
  rw [List.append_assoc] at hwi
  obtain ⟨hend, hwe⟩ := hinside.behind_spec hwi
  have hlen : (List.replicate n '*' ++ closingMarker).length = n + 2 := by
    rw [List.length_append, List.length_replicate]
    rfl
  have hclosing := preferred_closing n after
  rw [← hwe, ← hlen] at hclosing
  rw [← List.append_assoc] at hwe
  rw [value_doc, doc_opening hv ⟨_, hw.symm⟩, Outcome.flatMap, pattern_passes hinside hwi hbody,
    Outcome.flatMap, pattern_passes hend hwe hclosing, Outcome.map, ← View.behind_append,
    ← View.behind_append, List.append_assoc docOpening, List.append_assoc pieces]
  exact ⟨_, rfl⟩

theorem doc_unclosed (hv : v.Valid) (hw : v.window = docOpening ++ text)
    (ht : Unclosed text) : (doc.parse v).value.isSuccess = false := by
  obtain ⟨hinside, hwi⟩ := hv.behind_spec hw
  obtain ⟨pieces, n, rfl, hbody⟩ := preferred_body_unclosed ht
  rw [← hwi] at hbody
  obtain ⟨hend, hwe⟩ := hinside.behind_spec hwi
  have hclosing := preferred_closing_missing n
  rw [← hwe] at hclosing
  rw [value_doc, doc_opening hv ⟨_, hw.symm⟩, Outcome.flatMap, pattern_passes hinside hwi hbody,
    Outcome.flatMap, pattern_fails hend hclosing, Outcome.map]
  rfl

end Parsers

/-! ## Documentation comments and block comments -/

def emptyBlock : List Char := ['/', '*', '*', '/']

/-- The documentation comment, where there is one, is a block comment of five bytes or more, and
ends where that does. -/
structure DocIsBlock (v : View Char) : Prop where
  isSuccess_iff : (doc.parse v).value.isSuccess = true ↔
    docOpening <+: v.window ∧ (comment.parse v).value.isSuccess = true ∧
      v.offset + 5 ≤ (comment.parse v).value.rest.offset
  rest_eq : (doc.parse v).value.isSuccess = true →
    (doc.parse v).value.rest = (comment.parse v).value.rest ∧
      PastFirstClosing v blockOpening (doc.parse v).value.rest

/-- The block comment is empty, and the documentation comment goes up to the next closing marker
behind it. -/
structure DocRunsOn (v : View Char) : Prop where
  comment_isSuccess : (comment.parse v).value.isSuccess = true
  comment_rest : (comment.parse v).value.rest = v.behind emptyBlock
  isSuccess_iff : (doc.parse v).value.isSuccess = true ↔
    ¬ Unclosed (v.window.drop emptyBlock.length)
  rest : (doc.parse v).value.isSuccess = true →
    PastFirstClosing v emptyBlock (doc.parse v).value.rest

section Agreement

variable {v : View Char} {text : List Char}

theorem docIsBlock_of_unopened (hv : v.Valid) (hw : ¬ docOpening <+: v.window) : DocIsBlock v := by
  have hd : ¬ (doc.parse v).value.isSuccess = true := by
    rw [doc_unopened hv hw]
    exact Bool.false_ne_true
  constructor
  · exact ⟨fun h => absurd h hd, fun h => absurd h.1 hw⟩
  · exact fun h => absurd h hd

theorem docIsBlock_of_unclosed (hv : v.Valid) (hw : v.window = docOpening ++ text)
    (hs : text.head? ≠ some '/') (ht : Unclosed text) : DocIsBlock v := by
  have hd : ¬ (doc.parse v).value.isSuccess = true := by
    rw [doc_unclosed hv hw ht]
    exact Bool.false_ne_true
  have hc : ¬ (comment.parse v).value.isSuccess = true := by
    have hb : Unclosed ('*' :: text) := unclosed_cons.mpr ⟨fun h => hs h.2, ht⟩
    rw [comment_unclosed hv hw hb, Outcome.isSuccess]
    exact Bool.false_ne_true
  constructor
  · exact ⟨fun h => absurd h hd, fun h => absurd h.2.1 hc⟩
  · exact fun h => absurd h hd

theorem docIsBlock_of_closed (hv : v.Valid) (hw : v.window = docOpening ++ text)
    (hs : text.head? ≠ some '/') (ht : ¬ Unclosed text) : DocIsBlock v := by
  obtain ⟨body, after, rfl, hb⟩ := exists_first_closing ht
  have hwd : v.window = docOpening ++ body ++ closingMarker ++ after := by
    rw [hw, List.append_assoc, List.append_assoc, List.append_assoc]
  have hstar : Unclosed ('*' :: body ++ ['*']) := by
    refine unclosed_cons.mpr ⟨fun h => ?_, hb⟩
    cases body with
    | nil => cases h.2
    | cons c body => exact hs h.2
  have hwc : v.window = blockOpening ++ '*' :: body ++ closingMarker ++ after := hwd
  obtain ⟨d, hd⟩ := doc_closed hv hwd hb
  have hc := comment_closed hv hwc hstar
  have hoffset : v.offset + 5 ≤
      (v.behind (blockOpening ++ '*' :: body ++ closingMarker)).offset := by
    have ho : extent blockOpening = 2 := rfl
    have hm : extent closingMarker = 2 := rfl
    have hw1 : width '*' = 1 := rfl
    simp only [View.behind, extent_append, extent_cons]
    omega
  constructor
  · rw [hd, hc]
    exact ⟨fun _ => ⟨⟨_, hw.symm⟩, rfl, hoffset⟩, fun _ => rfl⟩
  · intro _
    rw [hd, hc]
    exact ⟨rfl, '*' :: body, after, hwd, hstar, rfl⟩

theorem docRunsOn_of_emptyBlock (hv : v.Valid) (hw : v.window = emptyBlock ++ text) :
    DocRunsOn v := by
  have hwc : v.window = blockOpening ++ [] ++ closingMarker ++ text := hw
  have hwd : v.window = docOpening ++ '/' :: text := hw
  have hdrop : v.window.drop emptyBlock.length = text := by rw [hw, List.drop_left]
  have hc := comment_closed hv hwc unclosed_nil.concat_star
  by_cases ht : Unclosed text
  · have hs : Unclosed ('/' :: text) := unclosed_cons.mpr ⟨by simp, ht⟩
    have hd : ¬ (doc.parse v).value.isSuccess = true := by
      rw [doc_unclosed hv hwd hs]
      exact Bool.false_ne_true
    constructor
    · rw [hc, Outcome.isSuccess]
    · rw [hc, Outcome.rest]
      rfl
    · rw [hdrop]
      exact ⟨fun h => absurd h hd, fun h => absurd ht h⟩
    · exact fun h => absurd h hd
  · obtain ⟨body, after, rfl, hb⟩ := exists_first_closing ht
    have hslash : Unclosed ('/' :: body ++ ['*']) := unclosed_cons.mpr ⟨by simp, hb⟩
    have hwb : v.window = docOpening ++ '/' :: body ++ closingMarker ++ after := by
      rw [hwd, List.append_assoc body, ← List.cons_append, ← List.append_assoc, ← List.append_assoc]
    obtain ⟨d, hd⟩ := doc_closed hv hwb hslash
    constructor
    · rw [hc, Outcome.isSuccess]
    · rw [hc, Outcome.rest]
      rfl
    · rw [hdrop, hd]
      exact ⟨fun _ => ht, fun _ => rfl⟩
    · intro _
      rw [hd]
      exact ⟨body, after, hwb, hb, rfl⟩

end Agreement

/-- Documentation comments are block comments, unless the block comment is empty. -/
theorem doc_agrees_unless_block_empty {v : View Char} (hv : v.Valid) :
    (¬ emptyBlock <+: v.window → DocIsBlock v) ∧ (emptyBlock <+: v.window → DocRunsOn v) := by
  constructor
  · intro hempty
    by_cases hw : docOpening <+: v.window
    · obtain ⟨text, hw⟩ := hw
      have hs : text.head? ≠ some '/' := by
        intro hs
        obtain ⟨after, rfl⟩ := List.head?_eq_some_iff.mp hs
        exact hempty ⟨after, hw⟩
      by_cases ht : Unclosed text
      · exact docIsBlock_of_unclosed hv hw.symm hs ht
      · exact docIsBlock_of_closed hv hw.symm hs ht
    · exact docIsBlock_of_unopened hv hw
  · rintro ⟨text, hw⟩
    exact docRunsOn_of_emptyBlock hv hw.symm

theorem doc_agrees_unless_block_empty_starred :
    let v : View Char := ⟨⟨0, ['x', '/', '*', '*', 'é', '*', '*', '/', '*', '/']⟩, 1, 10⟩
    let w : View Char := ⟨⟨1, ['/', '*', '*', '/', '*', '/', ';']⟩, 0, 7⟩
    v.Valid ∧ DocIsBlock v ∧ (doc.parse v).value.rest.window = ['*', '/'] ∧
      w.Valid ∧ DocRunsOn w ∧ (doc.parse w).value.rest.window = [';'] := by
  intro v w
  have hv : v.Valid := by
    constructor
    · exact ⟨['x'], ['/', '*', '*', 'é', '*', '*', '/', '*', '/'], rfl, by decide⟩
    · exact ⟨['x', '/', '*', '*', 'é', '*', '*', '/', '*', '/'], [], rfl, by decide⟩
  have hw : w.Valid := View.valid_ofSource ⟨1, ['/', '*', '*', '/', '*', '/', ';']⟩
  refine ⟨hv, (doc_agrees_unless_block_empty hv).1 ?_, ?_, hw,
    (doc_agrees_unless_block_empty hw).2 ?_, ?_⟩
  · decide
  · decide +kernel
  · decide
  · decide +kernel

/-- Behind an empty block comment the text up to the next closing marker is passed with it. -/
theorem doc_passes_text_behind_empty_block :
    let v : View Char := ⟨⟨0, ['/', '*', '*', '/', ' ', '*', '/']⟩, 0, 7⟩
    v.Valid ∧ (doc.parse v).value.isSuccess = true ∧ (doc.parse v).value.rest.offset = 7 ∧
      (comment.parse v).value.isSuccess = true ∧ (comment.parse v).value.rest.offset = 4 := by
  intro v
  have hv : v.Valid := View.valid_ofSource ⟨0, ['/', '*', '*', '/', ' ', '*', '/']⟩
  refine ⟨hv, ?_⟩
  decide +kernel

end ParseFlow.Grammar
