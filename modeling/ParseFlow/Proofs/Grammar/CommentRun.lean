import ParseFlow.Proofs.Grammar.Comment
import ParseFlow.Proofs.Parser.Repetition

/-!
# Runs of comments

All comments from a position on. Before each the blanks that stand there are passed, and where no
comment follows them they are given back. A comment is never empty, so that the repetition goes on as
long as there is a comment behind the blanks.
-/
namespace ParseFlow.Grammar

open Text View

/-- The blanks in front of the window, as many as there are in a row. -/
def blanksAhead (v : View Char) : List Char := v.window.takeWhile isBlank

def behindBlanks (v : View Char) : View Char := v.behind (blanksAhead v)

/-- A comment with the characters it is read from and the blanks before them. -/
structure PlacedComment where
  blanks : List Char
  text : List Char
  comment : Comment

/-- From `v` to `rest` there are comments, each where the one before it ends and behind all blanks
that stand there. -/
inductive CommentRun : View Char → List PlacedComment → View Char → Prop
  | done {v : View Char} : CommentRun v [] v
  | next {v rest : View Char} {placed : PlacedComment} {run : List PlacedComment} :
      placed.blanks = blanksAhead v → placed.text <+: (behindBlanks v).window →
      (comment.parse (behindBlanks v)).value =
        .success placed.comment ((behindBlanks v).behind placed.text) →
      CommentRun ((behindBlanks v).behind placed.text) run rest → CommentRun v (placed :: run) rest

/-- The text of the comments and the blanks before them. -/
def spelled (run : List PlacedComment) : List Char := run.flatMap fun c => c.blanks ++ c.text

/-! ## One comment and the blanks before it -/

section Single

variable {v : View Char}

theorem preferred_blanks (text : List Char) :
    blanksRegex.expr.preferred none 0 text = some ((text.takeWhile isBlank).length, []) := by
  have hexpr : blanksRegex.expr = .seq (.look .textStart) (.star true (.set .blank)) := by
    decide +kernel
  have hopen : blanksRegex.expr.preferred none 0 text =
      searchFrom [.more true (.set .blank)] none 0 none text := by
    rw [hexpr]
    cases text <;> rfl
  have hpassed : searchFrom [.more true (.set .blank)] none 0 none
      (text.takeWhile isBlank ++ text.dropWhile isBlank) =
        some (0 + (text.takeWhile isBlank).length, []) := by
    refine searchFrom_more (fun c hc => List.mem_takeWhile_imp hc) fun c hc => ?_
    have hnot := List.head?_dropWhile_not isBlank text
    rw [hc] at hnot
    exact hnot
  rw [List.takeWhile_append_dropWhile, Nat.zero_add] at hpassed
  rw [hopen, hpassed]

theorem window_split_blanks (v : View Char) :
    v.window = blanksAhead v ++ v.window.dropWhile isBlank :=
  List.takeWhile_append_dropWhile.symm

theorem valid_behindBlanks (hv : v.Valid) : (behindBlanks v).Valid :=
  (hv.behind_spec (window_split_blanks v)).1

/-- The comment is looked for behind the blanks. -/
theorem value_spaced (hv : v.Valid) :
    ((comment.precededBy (.pattern blanksRegex)).parse v).value =
      (comment.parse (behindBlanks v)).value := by
  have hblanks := pattern_passes hv (window_split_blanks v) (preferred_blanks v.window)
  rw [Parser.value_parse, Parser.value_precededBy, Parser.value_then, hblanks, Outcome.flatMap,
    Outcome.map_map, ← behindBlanks, Parser.value_parse]
  cases (comment.matcher (behindBlanks v)).value <;> rfl

/-- A comment is not empty, and where there is none nothing is passed. -/
theorem comment_cases (hv : v.Valid) :
    (∃ c taken, taken ≠ [] ∧ taken <+: v.window ∧
      (comment.parse v).value = .success c (v.behind taken)) ∨
    ∃ reason, (comment.parse v).value = .failure reason v := by
  by_cases hl : lineOpening <+: v.window
  · obtain ⟨body, rest, hc⟩ := exists_lineComment hl
    exact .inl ⟨_, lineOpening ++ body, nofun, ⟨rest, hc.split.symm⟩, comment_line hv hc⟩
  by_cases hb : blockOpening <+: v.window
  · obtain ⟨text, hw⟩ := hb
    by_cases hu : Unclosed text
    · exact .inr ⟨_, comment_unclosed hv hw.symm hu⟩
    · obtain ⟨body, rest, rfl, hbody⟩ := exists_first_closing hu
      rw [← List.append_assoc, ← List.append_assoc] at hw
      exact .inl ⟨_, blockOpening ++ body ++ closingMarker, nofun, ⟨rest, hw⟩,
        comment_closed hv hw.symm hbody⟩
  · exact .inr ⟨_, comment_fails hv (preferred_noComment hl hb)⟩

/-- A comment behind blanks is passed with them, and moves on. -/
theorem spaced_passes {c : Comment} {rest : View Char} (hv : v.Valid)
    (h : ((comment.precededBy (.pattern blanksRegex)).parse v).value = .success c rest) :
    ∃ taken, taken <+: (behindBlanks v).window ∧
      (comment.parse (behindBlanks v)).value = .success c ((behindBlanks v).behind taken) ∧
      rest = (behindBlanks v).behind taken ∧ rest.offset ≠ v.offset := by
  rw [value_spaced hv] at h
  rcases comment_cases (valid_behindBlanks hv) with ⟨d, taken, hne, htaken, hs⟩ | ⟨reason, hf⟩
  · rw [hs] at h
    cases h
    refine ⟨taken, htaken, hs, rfl, fun ho => hne (extent_eq_zero.mp ?_)⟩
    simp only [behindBlanks, behind] at ho
    omega
  · rw [hf] at h
    cases h

end Single

/-! ## The repetition -/

section Repetition

variable {v rest : View Char} {run : List PlacedComment}

/-- The characters of the run are passed. -/
theorem CommentRun.passes (h : CommentRun v run rest) (hv : v.Valid) :
    spelled run <+: v.window ∧ rest = v.behind (spelled run) := by
  induction h with
  | done => exact ⟨List.nil_prefix, rfl⟩
  | @next v rest placed run hblanks htext hc hrun ih =>
    obtain ⟨left, hw⟩ := htext
    obtain ⟨hmid, hwmid⟩ := (valid_behindBlanks hv).behind_spec hw.symm
    obtain ⟨⟨after, hafter⟩, hrest⟩ := ih hmid
    have hsplit : spelled (placed :: run) = blanksAhead v ++ (placed.text ++ spelled run) := by
      rw [spelled, List.flatMap_cons, hblanks, List.append_assoc]
      rfl
    rw [hsplit]
    constructor
    · refine ⟨after, ?_⟩
      rw [List.append_assoc, List.append_assoc, hafter, hwmid, hw, behindBlanks,
        (hv.behind_spec (window_split_blanks v)).2]
      exact (window_split_blanks v).symm
    · rw [hrest, behindBlanks, behind_append, behind_append]

/-- The matches of the repetition are a run of comments, behind which there is no other. -/
theorem exists_commentRun {found : List (Comment × View Char)} (hv : v.Valid)
    (h : Parser.GreedyRun (comment.precededBy (.pattern blanksRegex)) v found) :
    ∃ run, CommentRun v run (Parser.leftBy v found) ∧ found.map (·.1) = run.map (·.comment) ∧
      (Parser.leftBy v found).Valid ∧
      ∃ reason, (comment.parse (behindBlanks (Parser.leftBy v found))).value =
        .failure reason (behindBlanks (Parser.leftBy v found)) := by
  induction h with
  | @failed v rest reason hf =>
    rw [value_spaced hv] at hf
    refine ⟨[], .done, rfl, hv, ?_⟩
    rcases comment_cases (valid_behindBlanks hv) with ⟨c, taken, -, -, hs⟩ | hno
    · rw [hs] at hf
      cases hf
    · exact hno
  | @stuck v rest c hs ho =>
    obtain ⟨taken, -, -, -, hmove⟩ := spaced_passes hv hs
    exact absurd ho hmove
  | @onwards v rest c found hs _ _ ih =>
    obtain ⟨taken, htaken, hc, rfl, -⟩ := spaced_passes hv hs
    obtain ⟨left, hw⟩ := htaken
    obtain ⟨run, hrun, hmap, hend⟩ := ih ((valid_behindBlanks hv).behind_spec hw.symm).1
    refine ⟨⟨blanksAhead v, taken, c⟩ :: run, .next rfl ⟨left, hw⟩ hc hrun, ?_, hend⟩
    rw [List.map_cons, List.map_cons, hmap]

end Repetition

/-- The comments from a position on are a run of comments as long as there can be. Behind the blanks
that follow it there is no comment, so that its end is the position where these blanks begin, and
from there on no further comment is found. The greatest index bounds repetitions; a view of text is
never that long, as it takes up memory. -/
theorem comments_maximal {v : View Char} (hv : v.Valid) (hlen : v.len < maxIndex) :
    ∃ run rest, CommentRun v run rest ∧
      (comments.parse v).value = .success (run.map (·.comment)) rest ∧
      (v.upTo rest).window = spelled run ∧
      (∃ reason, (comment.parse (behindBlanks rest)).value = .failure reason (behindBlanks rest)) ∧
      (comments.parse rest).value = .success [] rest := by
  have hs : Parser.Settled (comment.precededBy (.pattern blanksRegex)) :=
    .precededBy (.mapTraced _ (.pattern _) nofun) (.pattern _)
  have hreturns := (hs.returning trivial).returnsSuffixes hv
  obtain ⟨found, hfound, hl⟩ := hreturns.exists_greedyRun hv.isSuffix_refl
  obtain ⟨run, hrun, hmap, hrest, reason, hno⟩ := exists_commentRun hv hfound
  obtain ⟨⟨left, hw⟩, hend⟩ := hrun.passes hv
  have hmany := hfound.many_eq (by omega)
  rw [hmap] at hmany
  have hagain : Parser.GreedyRun (comment.precededBy (.pattern blanksRegex))
      (Parser.leftBy v found) [] := .failed ((value_spaced hrest).trans hno)
  refine ⟨run, _, hrun, hmany, ?_, ⟨reason, hno⟩, hagain.many_eq (Nat.zero_le _)⟩
  rw [hend, hv.window_upTo hw.symm]

/-- A line comment and a block comment behind blanks, in front of blanks and a slash. -/
theorem comments_maximal_before_slash :
    let v : View Char :=
      .ofSource ⟨0, [' ', '/', '/', 'é', '\n', '\t', '/', '*', '*', '/', '\n', ' ', '/']⟩
    v.Valid ∧ v.len < maxIndex ∧ ∃ run rest, CommentRun v run rest ∧
      (comments.parse v).value = .success (run.map (·.comment)) rest ∧
      run.map (·.comment) = [⟨"é"⟩, ⟨""⟩] ∧ rest.window = ['\n', ' ', '/'] ∧
      (comments.parse rest).value = .success [] rest := by
  intro v
  have hv : v.Valid := valid_ofSource _
  have hlen : v.len < maxIndex := by decide
  obtain ⟨run, rest, hrun, hs, -, -, hagain⟩ := comments_maximal hv hlen
  have hvalue : (comments.parse v).value.value? = some [⟨"é"⟩, ⟨""⟩] := by decide +kernel
  have hrest : (comments.parse v).value.rest.window = ['\n', ' ', '/'] := by decide +kernel
  rw [hs] at hvalue hrest
  exact ⟨hv, hlen, run, rest, hrun, hs, Option.some.inj hvalue, hrest, hagain⟩

end ParseFlow.Grammar
