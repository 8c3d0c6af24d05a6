import ParseFlow.Grammar.Comment
import ParseFlow.Grammar.JsDoc

/-!
# Searches for a closing marker

What the expressions of block comments and documentation comments match. Each search has only one or
two expressions open at a time: between the markers, or behind a star. Reading on from these states
up to the first closing marker, or up to the end of a text without one, tells where each stops.
-/
namespace ParseFlow.Grammar

open Regex

/-! ## The first closing marker -/

def closingMarker : List Char := ['*', '/']

/-- There is no closing marker in the text. -/
def Unclosed (text : List Char) : Prop := ¬ closingMarker <:+: text

section Unclosed

variable {c : Char} {text body after : List Char}

theorem unclosed_nil : Unclosed [] := by
  intro h
  cases List.infix_nil.mp h

theorem unclosed_cons :
    Unclosed (c :: text) ↔ ¬ (c = '*' ∧ text.head? = some '/') ∧ Unclosed text := by
  have hp : closingMarker <+: c :: text ↔ c = '*' ∧ text.head? = some '/' := by
    rw [closingMarker, List.cons_prefix_cons]
    cases text with
    | nil => simp
    | cons d text => simp [eq_comm]
  rw [Unclosed, List.infix_cons_iff, hp, not_or, Unclosed]

theorem Unclosed.tail (h : Unclosed (c :: text)) : Unclosed text := (unclosed_cons.mp h).2

/-- One more star closes nothing. -/
theorem Unclosed.concat_star (h : Unclosed text) : Unclosed (text ++ ['*']) := by
  induction text with
  | nil => exact unclosed_cons.mpr ⟨by simp, unclosed_nil⟩
  | cons c text ih =>
    obtain ⟨hc, ht⟩ := unclosed_cons.mp h
    refine unclosed_cons.mpr ⟨?_, ih ht⟩
    cases text with
    | nil => simp
    | cons d text => exact hc

/-- A text with closing markers has a first one. -/
theorem exists_first_closing (h : ¬ Unclosed text) :
    ∃ body after, text = body ++ closingMarker ++ after ∧ Unclosed (body ++ ['*']) := by
  induction text with
  | nil => exact absurd unclosed_nil h
  | cons c text ih =>
    by_cases hc : c = '*' ∧ text.head? = some '/'
    · obtain ⟨rfl, hhead⟩ := hc
      obtain ⟨after, rfl⟩ := List.head?_eq_some_iff.mp hhead
      exact ⟨[], after, rfl, unclosed_nil.concat_star⟩
    · have ht : ¬ Unclosed text := fun ht => h (unclosed_cons.mpr ⟨hc, ht⟩)
      obtain ⟨body, after, rfl, hb⟩ := ih ht
      refine ⟨c :: body, after, rfl, unclosed_cons.mpr ⟨?_, hb⟩⟩
      cases body with
      | nil => simp
      | cons d body => exact hc

/-- No closing marker begins before the first one. -/
theorem Unclosed.prefix_of_closing {inside rest : List Char} (h : Unclosed (body ++ ['*']))
    (hs : body ++ (closingMarker ++ rest) = inside ++ (closingMarker ++ after)) :
    body <+: inside := by
  have hbody : body <+: inside ++ (closingMarker ++ after) := ⟨_, hs⟩
  rcases List.prefix_or_prefix_of_prefix hbody (List.prefix_append _ _) with hp | ⟨mid, rfl⟩
  · exact hp
  · rw [List.append_assoc] at hs
    have hmid := List.append_cancel_left hs
    cases mid with
    | nil => exact ⟨[], by rw [List.append_nil, List.append_nil]⟩
    | cons c mid =>
      -- The marker would begin inside the body, and reach at most to the star of the first one.
      have hclosing : closingMarker <+: c :: mid ++ ['*'] := by
        refine List.prefix_of_prefix_length_le ⟨after, rfl⟩ ⟨'/' :: rest, ?_⟩ ?_
        · rw [← hmid, List.append_assoc]
          rfl
        · simp [closingMarker]
      refine absurd (hclosing.isInfix.trans ?_) h
      rw [List.append_assoc]
      exact (List.suffix_append inside _).isInfix

end Unclosed

/-! ## Searches -/

/-- The preferred search from expressions that are open before `text` and have marked nothing. -/
def searchFrom (exprs : List Expr) (before : Option Char) (position : Nat)
    (best : Option (Nat × Slots)) (text : List Char) : Option (Nat × Slots) :=
  preferredFrom before (exprs.map (⟨·, []⟩)) position best text

variable {before : Option Char} {position : Nat} {best : Option (Nat × Slots)} {c : Char}
  {text tail : List Char}

theorem searchFrom_nil : searchFrom [] before position best text = best := by
  cases text <;> rfl

/-- A preferred expression that is through ends the search. -/
theorem searchFrom_empty (exprs : List Expr) :
    searchFrom (.empty :: exprs) before position best text = some (position, []) := by
  cases text with
  | nil => rfl
  | cons c text => exact searchFrom_nil

/-! ### Characters of a class -/

section Classes

variable {k : CharClass} {run rest : List Char}

theorem alternatives_more_set (s : Surroundings) :
    (Expr.more true (.set k)).alternatives s = [⟨[], some (k, .more true (.set k))⟩, .stop] := rfl

theorem searchFrom_more_over (hc : k.contains c = true) :
    searchFrom [.more true (.set k)] before position best (c :: text) =
      searchFrom [.more true (.set k)] (some c) (position + 1) (some (position, [])) text := by
  simp [searchFrom, preferredFrom, alternatives_more_set, Alternative.stop, untilStop, hc,
    mostPreferred]

theorem searchFrom_more_end (hr : ∀ c ∈ rest.head?, k.contains c = false) :
    searchFrom [.more true (.set k)] before position best rest = some (position, []) := by
  cases rest with
  | nil => rfl
  | cons c rest =>
    simp [searchFrom, preferredFrom, alternatives_more_set, Alternative.stop, untilStop, hr c rfl,
      mostPreferred]

/-- As many characters of the class as there are in a row are passed. -/
theorem searchFrom_more (hrun : ∀ c ∈ run, k.contains c = true)
    (hr : ∀ c ∈ rest.head?, k.contains c = false) :
    searchFrom [.more true (.set k)] before position best (run ++ rest) =
      some (position + run.length, []) := by
  induction run generalizing before position best with
  | nil => exact searchFrom_more_end hr
  | cons c run ih =>
    obtain ⟨hc, hrun⟩ := List.forall_mem_cons.mp hrun
    rw [List.cons_append, searchFrom_more_over hc, ih hrun, List.length_cons, Nat.add_assoc,
      Nat.add_comm 1]

end Classes

/-! ### Block comments -/

/-- Any characters up to a closing marker, as few as possible. -/
def anyThenClosing : Expr :=
  .seq (.more false (.set .any)) (.seq (.set (.single '*')) (.set (.single '/')))

def slash : Expr := .set (.single '/')

theorem alternatives_slash (s : Surroundings) :
    slash.alternatives s = [⟨[], some (.single '/', .empty)⟩] := rfl

theorem alternatives_anyThenClosing (s : Surroundings) :
    anyThenClosing.alternatives s =
      [⟨[], some (.single '*', slash)⟩, ⟨[], some (.any, anyThenClosing)⟩] := rfl

theorem searchFrom_any_star :
    searchFrom [anyThenClosing] before position best ('*' :: text) =
      searchFrom [slash, anyThenClosing] (some '*') (position + 1) best text := rfl

theorem searchFrom_any (hc : c ≠ '*') :
    searchFrom [anyThenClosing] before position best (c :: text) =
      searchFrom [anyThenClosing] (some c) (position + 1) best text := by
  simp [searchFrom, preferredFrom, alternatives_anyThenClosing, untilStop, CharClass.contains, hc,
    mostPreferred]

theorem searchFrom_slash_slash :
    searchFrom [slash, anyThenClosing] before position best ('/' :: text) =
      some (position + 1, []) := searchFrom_empty [anyThenClosing]

theorem searchFrom_slash_star :
    searchFrom [slash, anyThenClosing] before position best ('*' :: text) =
      searchFrom [slash, anyThenClosing] (some '*') (position + 1) best text := rfl

theorem searchFrom_slash_any (hs : c ≠ '/') (hc : c ≠ '*') :
    searchFrom [slash, anyThenClosing] before position best (c :: text) =
      searchFrom [anyThenClosing] (some c) (position + 1) best text := by
  simp [searchFrom, preferredFrom, alternatives_slash, alternatives_anyThenClosing, untilStop,
    CharClass.contains, hs, hc, mostPreferred]

/-- Whatever comes of the search at `tail`, from either state, comes of it with text before `tail`
that closes nothing. -/
theorem searchFrom_block (tail : List Char) (result : Nat → Option (Nat × Slots))
    (hany : ∀ before position,
      searchFrom [anyThenClosing] before position none tail = result position)
    (hslash : ∀ before position,
      searchFrom [slash, anyThenClosing] before position none tail = result position)
    (body : List Char) :
    (Unclosed (body ++ ['*']) → ∀ before position,
      searchFrom [anyThenClosing] before position none (body ++ tail) =
        result (position + body.length)) ∧
    (Unclosed ('*' :: body ++ ['*']) → ∀ before position,
      searchFrom [slash, anyThenClosing] before position none (body ++ tail) =
        result (position + body.length)) := by
  induction body with
  | nil => exact ⟨fun _ => hany, fun _ => hslash⟩
  | cons c body ih =>
    have hlen : ∀ position, position + 1 + body.length = position + (c :: body).length := by
      intro position
      rw [List.length_cons]
      omega
    constructor
    · intro h before position
      rw [← hlen, List.cons_append]
      by_cases hc : c = '*'
      · subst hc
        rw [searchFrom_any_star]
        exact ih.2 h _ _
      · rw [searchFrom_any hc]
        exact ih.1 h.tail _ _
    · intro h before position
      rw [← hlen, List.cons_append]
      have hs : c ≠ '/' := fun hs => (unclosed_cons.mp h).1 ⟨rfl, congrArg some hs⟩
      by_cases hc : c = '*'
      · subst hc
        rw [searchFrom_slash_star]
        exact ih.2 h.tail _ _
      · rw [searchFrom_slash_any hs hc]
        exact ih.1 h.tail.tail _ _

/-- A block comment goes up to the first closing marker. -/
theorem searchFrom_block_closed {body : List Char} (hb : Unclosed (body ++ ['*']))
    (after : List Char) :
    searchFrom [anyThenClosing] before position none (body ++ (closingMarker ++ after)) =
      some (position + body.length + 2, []) := by
  have hany : ∀ before position,
      searchFrom [anyThenClosing] before position none ('*' :: '/' :: after) =
        some (position + 2, []) := by
    intro before position
    rw [searchFrom_any_star, searchFrom_slash_slash]
  have hslash : ∀ before position,
      searchFrom [slash, anyThenClosing] before position none ('*' :: '/' :: after) =
        some (position + 2, []) := by
    intro before position
    rw [searchFrom_slash_star, searchFrom_slash_slash]
  exact (searchFrom_block _ (fun position => some (position + 2, [])) hany hslash body).1 hb before
    position

theorem searchFrom_block_unclosed (h : Unclosed text) :
    searchFrom [anyThenClosing] before position none text = none := by
  have hs := (searchFrom_block [] (fun _ => none) (fun _ _ => rfl) (fun _ _ => rfl) text).1
    h.concat_star before position
  rwa [List.append_nil] at hs

/-! ### Bodies of documentation comments -/

def notStar : CharClass := .complement (.union .empty (.single '*'))

def notStarOrSlash : CharClass :=
  .complement (.union (.union .empty (.single '*')) (.single '/'))

/-- Characters other than stars, and stars with a character behind them that is no slash. -/
def bodyPiece : Expr :=
  .alt (.set notStar) (.seq (.plus true (.set (.single '*'))) (.set notStarOrSlash))

def morePieces : Expr := .more true bodyPiece

/-- Behind a star: more of them, and the character that ends the piece. -/
def pieceBehindStar : Expr :=
  .seq (.seq (.more true (.set (.single '*'))) (.set notStarOrSlash)) morePieces

theorem alternatives_morePieces (s : Surroundings) :
    morePieces.alternatives s =
      [⟨[], some (notStar, morePieces)⟩, ⟨[], some (.single '*', pieceBehindStar)⟩, .stop] := rfl

theorem alternatives_pieceBehindStar (s : Surroundings) :
    pieceBehindStar.alternatives s =
      [⟨[], some (.single '*', pieceBehindStar)⟩, ⟨[], some (notStarOrSlash, morePieces)⟩] := rfl

theorem contains_notStar : notStar.contains c = true ↔ c ≠ '*' := by
  simp [notStar, CharClass.contains]

theorem contains_notStarOrSlash : notStarOrSlash.contains c = true ↔ c ≠ '*' ∧ c ≠ '/' := by
  simp [notStarOrSlash, CharClass.contains]

theorem searchFrom_pieces_star :
    searchFrom [morePieces] before position best ('*' :: text) =
      searchFrom [pieceBehindStar] (some '*') (position + 1) (some (position, [])) text := rfl

theorem searchFrom_pieces (hc : c ≠ '*') :
    searchFrom [morePieces] before position best (c :: text) =
      searchFrom [morePieces] (some c) (position + 1) (some (position, [])) text := by
  simp [searchFrom, preferredFrom, alternatives_morePieces, Alternative.stop, untilStop,
    contains_notStar, CharClass.contains, hc, mostPreferred]

theorem searchFrom_behind_star :
    searchFrom [pieceBehindStar] before position best ('*' :: text) =
      searchFrom [pieceBehindStar] (some '*') (position + 1) best text := rfl

/-- A slash behind a star ends the search at the best match so far. -/
theorem searchFrom_behind_slash :
    searchFrom [pieceBehindStar] before position best ('/' :: text) = best := searchFrom_nil

theorem searchFrom_behind (hs : c ≠ '/') (hc : c ≠ '*') :
    searchFrom [pieceBehindStar] before position best (c :: text) =
      searchFrom [morePieces] (some c) (position + 1) best text := by
  simp [searchFrom, preferredFrom, alternatives_pieceBehindStar, untilStop, CharClass.contains,
    contains_notStarOrSlash, hs, hc, mostPreferred]

/-- The search stops before the stars that `body`, which begins at `position`, ends with. -/
def StopsBeforeStars (body : List Char) (position : Nat) (found : Option (Nat × Slots)) : Prop :=
  ∃ pieces n, body = pieces ++ List.replicate n '*' ∧ found = some (position + pieces.length, [])

theorem StopsBeforeStars.cons {body : List Char} {found : Option (Nat × Slots)}
    (h : StopsBeforeStars body (position + 1) found) :
    StopsBeforeStars (c :: body) position found := by
  obtain ⟨pieces, n, rfl, rfl⟩ := h
  refine ⟨c :: pieces, n, rfl, ?_⟩
  rw [List.length_cons, Nat.add_assoc, Nat.add_comm 1]

/-- Over a body that closes nothing the search stops before the stars it ends with, if no piece goes
on at `tail`. Behind a star the body may be stars only, and then all is as before that star. -/
theorem searchFrom_body (tail : List Char)
    (hpieces : ∀ before position best,
      searchFrom [morePieces] before position best tail = some (position, []))
    (hbehind : ∀ before position best,
      searchFrom [pieceBehindStar] before position best tail = best)
    (body : List Char) :
    (Unclosed (body ++ ['*']) → ∀ before position best,
      StopsBeforeStars body position
        (searchFrom [morePieces] before position best (body ++ tail))) ∧
    (Unclosed ('*' :: body ++ ['*']) → ∀ before position best,
      (∃ n, body = List.replicate n '*' ∧
        searchFrom [pieceBehindStar] before position best (body ++ tail) = best) ∨
      StopsBeforeStars body position
        (searchFrom [pieceBehindStar] before position best (body ++ tail))) := by
  induction body with
  | nil =>
    constructor
    · intro _ before position best
      exact ⟨[], 0, rfl, hpieces before position best⟩
    · intro _ before position best
      exact .inl ⟨0, rfl, hbehind before position best⟩
  | cons c body ih =>
    constructor
    · intro h before position best
      rw [List.cons_append]
      by_cases hc : c = '*'
      · subst hc
        rw [searchFrom_pieces_star]
        rcases ih.2 h (some '*') (position + 1) (some (position, [])) with ⟨n, rfl, hf⟩ | hf
        · exact ⟨[], n + 1, rfl, hf⟩
        · exact hf.cons
      · rw [searchFrom_pieces hc]
        exact (ih.1 h.tail _ _ _).cons
    · intro h before position best
      have hs : c ≠ '/' := fun hs => (unclosed_cons.mp h).1 ⟨rfl, congrArg some hs⟩
      rw [List.cons_append]
      by_cases hc : c = '*'
      · subst hc
        rw [searchFrom_behind_star]
        rcases ih.2 h.tail (some '*') (position + 1) best with ⟨n, rfl, hf⟩ | hf
        · exact .inl ⟨n + 1, rfl, hf⟩
        · exact .inr hf.cons
      · rw [searchFrom_behind hs hc]
        exact .inr (ih.1 h.tail.tail _ _ _).cons

theorem searchFrom_body_closed {body : List Char} (hb : Unclosed (body ++ ['*']))
    (after : List Char) :
    StopsBeforeStars body position
      (searchFrom [morePieces] before position best (body ++ (closingMarker ++ after))) := by
  have hpieces : ∀ before position best,
      searchFrom [morePieces] before position best ('*' :: '/' :: after) = some (position, []) := by
    intro before position best
    rw [searchFrom_pieces_star, searchFrom_behind_slash]
  have hbehind : ∀ before position best,
      searchFrom [pieceBehindStar] before position best ('*' :: '/' :: after) = best := by
    intro before position best
    rw [searchFrom_behind_star, searchFrom_behind_slash]
  exact (searchFrom_body _ hpieces hbehind body).1 hb before position best

theorem searchFrom_body_unclosed (h : Unclosed text) :
    StopsBeforeStars text position (searchFrom [morePieces] before position best text) := by
  have hs := (searchFrom_body [] (fun _ _ _ => rfl) (fun _ _ _ => rfl) text).1 h.concat_star
    before position best
  rwa [List.append_nil] at hs

/-! ### Closings of documentation comments -/

/-- Behind a star: more of them, and a slash. -/
def starsThenSlash : Expr := .seq (.more true (.set (.single '*'))) slash

theorem searchFrom_stars_star :
    searchFrom [starsThenSlash] before position best ('*' :: text) =
      searchFrom [starsThenSlash] (some '*') (position + 1) best text := rfl

/-- Stars are passed, and what stands behind them decides. -/
theorem searchFrom_stars (tail : List Char) (result : Nat → Option (Nat × Slots))
    (htail : ∀ before position,
      searchFrom [starsThenSlash] before position none tail = result position)
    (n : Nat) (before : Option Char) (position : Nat) :
    searchFrom [starsThenSlash] before position none (List.replicate n '*' ++ tail) =
      result (position + n) := by
  induction n generalizing before position with
  | zero => exact htail before position
  | succ n ih =>
    have hn : position + 1 + n = position + (n + 1) := by omega
    rw [← hn, List.replicate_succ, List.cons_append, searchFrom_stars_star]
    exact ih (some '*') (position + 1)

theorem searchFrom_stars_closed (n : Nat) (after : List Char) :
    searchFrom [starsThenSlash] before position none
      (List.replicate n '*' ++ (closingMarker ++ after)) = some (position + n + 2, []) :=
  searchFrom_stars (closingMarker ++ after) (fun position => some (position + 2, []))
    (fun _ _ => searchFrom_empty []) n before position

theorem searchFrom_stars_unclosed (n : Nat) :
    searchFrom [starsThenSlash] before position none (List.replicate n '*') = none := by
  have hs := searchFrom_stars [] (fun _ => none) (fun _ _ => rfl) n before position
  rwa [List.append_nil] at hs

end ParseFlow.Grammar
