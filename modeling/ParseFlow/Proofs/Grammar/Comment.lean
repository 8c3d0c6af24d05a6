import Mathlib.Order.Bounds.Defs
import ParseFlow.Proofs.Grammar.ClosingMarker
import ParseFlow.Proofs.Parser.Primitive
import ParseFlow.Proofs.Text.Trimming

/-!
# Comments

Which texts begin with a comment, how far it goes and what it says. The search behind two slashes
reads to the end of the line, and behind a slash and a star to the first closing marker; no other
text has a match. The value is read off the match a second time, by its markers.
-/
namespace ParseFlow.Grammar

open Regex Text

/-! ## The search -/

section Search

variable {before : Option Char} {position : Nat} {best : Option (Nat × Slots)} {c : Char}
  {text line rest : List Char}

def notNewline : CharClass := .complement (.union .empty (.single '\n'))

/-- Characters up to the end of the line, as many as there are. -/
def restOfLine : Expr := .more true (.set notNewline)

theorem contains_notNewline : notNewline.contains c = true ↔ c ≠ '\n' := by
  simp [notNewline, CharClass.contains]

/-- A line is passed as a whole. -/
theorem searchFrom_line (hl : '\n' ∉ line) (hr : ∀ c ∈ rest.head?, c = '\n') :
    searchFrom [restOfLine] before position best (line ++ rest) =
      some (position + line.length, []) := by
  refine searchFrom_more (fun c hc => contains_notNewline.mpr ?_) fun c hc => ?_
  · rintro rfl
    exact hl hc
  · rw [hr c hc]
    rfl

/-- Behind the first slash: another one and the line. -/
def lineBehindSlash : Expr := .seq (.set (.single '/')) (.star true (.set notNewline))

/-- Behind the first slash: a star and all up to a closing marker. -/
def blockBehindSlash : Expr :=
  .seq (.set (.single '*')) (.seq (.star false (.set .any)) (.seq (.set (.single '*')) slash))

theorem commentRegex_expr : commentRegex.expr =
    .seq (.look .textStart)
      (.alt (.seq (.set (.single '/')) lineBehindSlash)
        (.seq (.set (.single '/')) blockBehindSlash)) := by
  decide +kernel

theorem alternatives_commentRegex (after : Option Char) :
    commentRegex.expr.alternatives ⟨none, after⟩ =
      [⟨[], some (.single '/', lineBehindSlash)⟩, ⟨[], some (.single '/', blockBehindSlash)⟩] := by
  rw [commentRegex_expr]
  rfl

theorem alternatives_lineBehindSlash (s : Surroundings) :
    lineBehindSlash.alternatives s =
      [⟨[], some (.single '/', .star true (.set notNewline))⟩] := rfl

theorem alternatives_blockBehindSlash (s : Surroundings) :
    blockBehindSlash.alternatives s =
      [⟨[], some (.single '*', .seq (.star false (.set .any)) (.seq (.set (.single '*')) slash))⟩] :=
  rfl

theorem preferred_lineComment :
    commentRegex.expr.preferred none 0 ('/' :: '/' :: text) =
      searchFrom [restOfLine] (some '/') 2 none text := by
  rw [commentRegex_expr]
  cases text <;> rfl

theorem preferred_blockComment :
    commentRegex.expr.preferred none 0 ('/' :: '*' :: text) =
      searchFrom [anyThenClosing] (some '*') 2 none text := by
  rw [commentRegex_expr]
  cases text <;> rfl

theorem preferred_notSlash (hc : c ≠ '/') :
    commentRegex.expr.preferred none 0 (c :: text) = none := by
  simp [Expr.preferred, preferredFrom, alternatives_commentRegex, untilStop, CharClass.contains, hc,
    mostPreferred]

theorem preferred_slash :
    commentRegex.expr.preferred none 0 ('/' :: text) =
      searchFrom [lineBehindSlash, blockBehindSlash] (some '/') 1 none text := by
  rw [commentRegex_expr]
  rfl

theorem searchFrom_behindSlash (hs : c ≠ '/') (hb : c ≠ '*') :
    searchFrom [lineBehindSlash, blockBehindSlash] before position none (c :: text) = none := by
  simp [searchFrom, preferredFrom, alternatives_lineBehindSlash, alternatives_blockBehindSlash,
    untilStop, CharClass.contains, hs, hb, mostPreferred]

end Search

/-! ## Both forms of comment -/

def lineOpening : List Char := ['/', '/']

def blockOpening : List Char := ['/', '*']

/-- No other text begins with a comment. -/
theorem preferred_noComment {text : List Char} (hl : ¬ lineOpening <+: text)
    (hb : ¬ blockOpening <+: text) : commentRegex.expr.preferred none 0 text = none := by
  cases text with
  | nil =>
    rw [commentRegex_expr]
    rfl
  | cons c text =>
    by_cases hc : c = '/'
    · subst hc
      rw [preferred_slash]
      cases text with
      | nil => rfl
      | cons d text =>
        apply searchFrom_behindSlash
        · rintro rfl
          exact hl ⟨text, rfl⟩
        · rintro rfl
          exact hb ⟨text, rfl⟩
    · exact preferred_notSlash hc

/-- A closing marker begins at a position of the text. -/
def ClosesAt (text : List Char) (n : Nat) : Prop :=
  ∃ before after, text = before ++ closingMarker ++ after ∧ extent before = n

/-- The text goes on with `body` up to the end of the first line. -/
structure LineComment (text body rest : List Char) : Prop where
  split : text = lineOpening ++ body ++ rest
  inside : '\n' ∉ body
  stop : ∀ c ∈ rest.head?, c = '\n'

/-- The text goes on with `body` up to the first closing marker that does not overlap the opening
one. -/
structure BlockComment (text body rest : List Char) : Prop where
  split : text = blockOpening ++ body ++ closingMarker ++ rest
  first : IsLeast {n | 2 ≤ n ∧ ClosesAt text n} (extent (blockOpening ++ body))

section Forms

variable {text body rest : List Char}

theorem exists_lineComment (h : lineOpening <+: text) : ∃ body rest, LineComment text body rest := by
  obtain ⟨line, rfl⟩ := h
  refine ⟨line.takeWhile (· ≠ '\n'), line.dropWhile (· ≠ '\n'), ?_, ?_, ?_⟩
  · rw [List.append_assoc, List.takeWhile_append_dropWhile]
  · intro hn
    have hne := List.mem_takeWhile_imp hn
    simp at hne
  · intro c hc
    have hnot := List.head?_dropWhile_not (fun c => decide (c ≠ '\n')) line
    rw [hc] at hnot
    simpa using hnot

/-- A closing marker at position two or later stands behind the opening. -/
theorem ClosesAt.behind_opening {n : Nat} (h : ClosesAt (blockOpening ++ text) n) (hn : 2 ≤ n) :
    ∃ inside after, text = inside ++ (closingMarker ++ after) ∧
      n = extent (blockOpening ++ inside) := by
  obtain ⟨before, after, hs, rfl⟩ := h
  rw [List.append_assoc] at hs
  obtain ⟨inside, rfl⟩ : blockOpening <+: before :=
    prefix_of_extent_le (List.prefix_append _ _) ⟨_, hs.symm⟩ hn
  rw [List.append_assoc] at hs
  exact ⟨inside, after, List.append_cancel_left hs, rfl⟩

theorem closesAt_behind_opening (inside after : List Char) :
    2 ≤ extent (blockOpening ++ inside) ∧
      ClosesAt (blockOpening ++ (inside ++ (closingMarker ++ after)))
        (extent (blockOpening ++ inside)) := by
  refine ⟨extent_mono (List.prefix_append blockOpening inside), blockOpening ++ inside, after, ?_,
    rfl⟩
  rw [List.append_assoc, List.append_assoc]

theorem closes_iff : (∃ n, 2 ≤ n ∧ ClosesAt (blockOpening ++ text) n) ↔ ¬ Unclosed text := by
  constructor
  · rintro ⟨n, hn, hc⟩ hu
    obtain ⟨inside, after, rfl, -⟩ := hc.behind_opening hn
    exact hu ⟨inside, after, by rw [List.append_assoc]⟩
  · intro hu
    obtain ⟨body, after, rfl, -⟩ := exists_first_closing hu
    rw [List.append_assoc]
    exact ⟨_, closesAt_behind_opening body after⟩

/-- The body of a block comment goes up to the first closing marker behind the opening. -/
theorem blockComment_of_unclosed (hb : Unclosed (body ++ ['*'])) (rest : List Char) :
    BlockComment (blockOpening ++ (body ++ (closingMarker ++ rest))) body rest := by
  constructor
  · rw [List.append_assoc, List.append_assoc]
  · refine ⟨closesAt_behind_opening body rest, ?_⟩
    rintro n ⟨hn, hc⟩
    obtain ⟨inside, after, hs, rfl⟩ := hc.behind_opening hn
    exact extent_mono ((List.prefix_append_right_inj _).mpr (hb.prefix_of_closing hs))

end Forms
/-! ## The text of a comment -/

namespace Comment

theorem withoutPrefix?_append (start text : List Char) :
    withoutPrefix? start (start ++ text) = some text := by
  rw [withoutPrefix?, if_pos (List.isPrefixOf_iff_prefix.mpr (List.prefix_append _ _)),
    List.drop_left]

theorem withoutSuffix?_append (text stop : List Char) :
    withoutSuffix? stop (text ++ stop) = some text := by
  rw [withoutSuffix?, if_pos (List.isSuffixOf_iff_suffix.mpr (List.suffix_append _ _)),
    List.length_append, Nat.add_sub_cancel, List.take_left]

theorem between_line (body : List Char) : between (lineOpening ++ body) = body := by
  rw [between, ← lineOpening, withoutPrefix?_append]

theorem between_block (body : List Char) :
    between (blockOpening ++ body ++ closingMarker) = body := by
  have hline : withoutPrefix? ['/', '/'] (blockOpening ++ body ++ closingMarker) = none := rfl
  rw [between, hline, List.append_assoc, ← blockOpening, withoutPrefix?_append, Option.bind_some,
    ← closingMarker, withoutSuffix?_append]

theorem value_ofText (text : List Char) :
    (ofText (String.ofList text)).value = ⟨String.ofList (trim (between text))⟩ := by
  simp only [ofText, Traced.value_bind, Traced.value_pure, String.toList_ofList]

end Comment

/-! ## The parser -/

section Parser

variable {v : View Char} {compiled : Regex} {slots : Slots} {taken left body rest text : List Char}

theorem pattern_passes (hv : v.Valid) (hw : v.window = taken ++ left)
    (hm : compiled.expr.preferred none 0 v.window = some (taken.length, slots)) :
    ((Parser.pattern compiled).matcher v).value =
      .success (String.ofList taken) (v.behind taken) := by
  refine (Parser.recognises_pattern compiled).success_of_length hv hw ?_
  rw [Parser.preferred?, hm, Option.map_some]

theorem pattern_fails (hv : v.Valid) (hm : compiled.expr.preferred none 0 v.window = none) :
    ((Parser.pattern compiled).matcher v).value =
      .failure (Parser.expected (.regex compiled.source)) v := by
  refine (Parser.recognises_pattern compiled).failure_of_length hv ?_
  rw [Parser.preferred?, hm, Option.map_none]

/-- What is matched is passed, and the value is read off it. -/
theorem comment_passes (hv : v.Valid) (hw : v.window = taken ++ left)
    (hm : commentRegex.expr.preferred none 0 v.window = some (taken.length, slots)) :
    (comment.parse v).value =
      .success ⟨String.ofList (trim (Comment.between taken))⟩ (v.behind taken) := by
  rw [Parser.value_parse, comment, Parser.value_mapTraced, pattern_passes hv hw hm, Outcome.map,
    Comment.value_ofText]

theorem comment_fails (hv : v.Valid) (hm : commentRegex.expr.preferred none 0 v.window = none) :
    (comment.parse v).value =
      .failure (Parser.expected (.regex commentRegex.source)) v := by
  rw [Parser.value_parse, comment, Parser.value_mapTraced, pattern_fails hv hm, Outcome.map]

theorem comment_line (hv : v.Valid) (h : LineComment v.window body rest) :
    (comment.parse v).value =
      .success ⟨String.ofList (trim body)⟩ (v.behind (lineOpening ++ body)) := by
  have hm : commentRegex.expr.preferred none 0 v.window =
      some ((lineOpening ++ body).length, []) := by
    rw [h.split, List.append_assoc]
    refine preferred_lineComment.trans ((searchFrom_line h.inside h.stop).trans ?_)
    rw [List.length_append]
    rfl
  rw [comment_passes hv h.split hm, Comment.between_line]

theorem comment_closed (hv : v.Valid)
    (hw : v.window = blockOpening ++ body ++ closingMarker ++ rest)
    (hb : Unclosed (body ++ ['*'])) :
    (comment.parse v).value = .success ⟨String.ofList (trim body)⟩
      (v.behind (blockOpening ++ body ++ closingMarker)) := by
  have hm : commentRegex.expr.preferred none 0 v.window =
      some ((blockOpening ++ body ++ closingMarker).length, []) := by
    rw [hw, List.append_assoc (blockOpening ++ body), List.append_assoc blockOpening]
    refine preferred_blockComment.trans ((searchFrom_block_closed hb rest).trans ?_)
    rw [List.length_append, List.length_append]
    rfl
  rw [comment_passes hv hw hm, Comment.between_block]

theorem comment_unclosed (hv : v.Valid) (hw : v.window = blockOpening ++ text)
    (ht : Unclosed text) :
    (comment.parse v).value = .failure (Parser.expected (.regex commentRegex.source)) v := by
  refine comment_fails hv ?_
  rw [hw]
  exact preferred_blockComment.trans (searchFrom_block_unclosed ht)

/-- The parse passes the comment, and its value is the text inside without blanks at the ends. -/
def Passes (v : View Char) (taken inside : List Char) : Prop :=
  ∃ core, TrimsTo inside core ∧
    (comment.parse v).value = .success ⟨String.ofList core⟩ (v.behind taken)

/-- Comments are accepted as they are in C: behind two slashes up to the end of the line, and behind
a slash and a star through the first closing marker that does not overlap them. All else fails where
it began. -/
theorem comment_accepts (hv : v.Valid) :
    (lineOpening <+: v.window → ∃ body rest, LineComment v.window body rest ∧
      Passes v (lineOpening ++ body) body) ∧
    (blockOpening <+: v.window → (∃ n, 2 ≤ n ∧ ClosesAt v.window n) →
      ∃ body rest, BlockComment v.window body rest ∧
        Passes v (blockOpening ++ body ++ closingMarker) body) ∧
    (¬ lineOpening <+: v.window →
      ¬ (blockOpening <+: v.window ∧ ∃ n, 2 ≤ n ∧ ClosesAt v.window n) →
      (comment.parse v).value = .failure (Parser.expected (.regex commentRegex.source)) v) := by
  refine ⟨fun hl => ?_, ?_, fun hl hb => ?_⟩
  · obtain ⟨body, rest, hc⟩ := exists_lineComment hl
    exact ⟨body, rest, hc, trim body, trimsTo_trim body, comment_line hv hc⟩
  · rintro ⟨text, hw⟩ hc
    rw [← hw, closes_iff] at hc
    obtain ⟨body, rest, rfl, hb⟩ := exists_first_closing hc
    rw [List.append_assoc] at hw
    have hblock := blockComment_of_unclosed hb rest
    rw [hw] at hblock
    exact ⟨body, rest, hblock, trim body, trimsTo_trim body, comment_closed hv hblock.split hb⟩
  · by_cases ho : blockOpening <+: v.window
    · obtain ⟨text, hw⟩ := ho
      have hu : Unclosed text := by
        by_contra hu
        rw [← closes_iff, hw] at hu
        exact hb ⟨⟨text, hw⟩, hu⟩
      exact comment_unclosed hv hw.symm hu
    · exact comment_fails hv (preferred_noComment hl ho)

end Parser

/-- A line comment in front of a newline, a block comment whose opening overlaps a slash, and that
opening alone. -/
theorem comment_accepts_overlapping :
    let line : View Char := ⟨⟨0, ['x', '/', '/', ' ', 'é', '\t', '\n', 'z']⟩, 1, 8⟩
    let block : View Char := .ofSource ⟨1, ['/', '*', '/', ' ', 'a', '*', '/', '*', '/']⟩
    let opening : View Char := .ofSource ⟨2, ['/', '*', '/']⟩
    line.Valid ∧ (comment.parse line).value.value? = some ⟨"é"⟩ ∧
      (∃ body rest, LineComment line.window body rest ∧ Passes line (lineOpening ++ body) body) ∧
      block.Valid ∧ (comment.parse block).value.value? = some ⟨"/ a"⟩ ∧
      (∃ body rest, BlockComment block.window body rest ∧
        Passes block (blockOpening ++ body ++ closingMarker) body) ∧
      opening.Valid ∧ (comment.parse opening).value =
        .failure (Parser.expected (.regex commentRegex.source)) opening := by
  intro line block opening
  have hline : line.Valid := by
    constructor
    · exact ⟨['x'], ['/', '/', ' ', 'é', '\t', '\n', 'z'], rfl, by decide⟩
    · exact ⟨['x', '/', '/', ' ', 'é', '\t', '\n', 'z'], [], rfl, by decide⟩
  have hblock : block.Valid := View.valid_ofSource _
  have hopening : opening.Valid := View.valid_ofSource _
  have hcloses : ∃ n, 2 ≤ n ∧ ClosesAt block.window n :=
    ⟨5, by decide, ['/', '*', '/', ' ', 'a'], ['*', '/'], by decide, by decide⟩
  have hopen : ¬ ∃ n, 2 ≤ n ∧ ClosesAt opening.window n := by
    have hw : opening.window = blockOpening ++ ['/'] := by decide
    rw [hw, closes_iff, not_not, Unclosed]
    decide
  refine ⟨hline, by decide +kernel, (comment_accepts hline).1 (by decide), hblock,
    by decide +kernel, (comment_accepts hblock).2.1 (by decide) hcloses, hopening, ?_⟩
  exact (comment_accepts hopening).2.2 (by decide) fun h => hopen h.2

end ParseFlow.Grammar
