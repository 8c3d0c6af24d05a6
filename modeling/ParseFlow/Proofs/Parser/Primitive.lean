import ParseFlow.Proofs.Parser.Value

/-!
# Matchers of the beginning

The parsers that are not put together from others look at the window and nothing else. Each is given
by what it finds there: a value and the items it is made of, which stand at the front of the window
and are passed. Where it finds nothing it fails at the place where it began.
-/
namespace ParseFlow.Parser

open View

variable {α β : Type}

/-! ## What is found in a window -/

/-- The first item, if there is one and it is accepted. -/
def findFirst (accept : α → Bool) : List α → Option (α × List α)
  | [] => none
  | x :: _ => if accept x then some (x, [x]) else none

/-- Nothing, where nothing is left. -/
def findEnd : List α → Option (Unit × List α)
  | [] => some ((), [])
  | _ :: _ => none

/-- The literal `items`, read as `b`. -/
def findLiteral [BEq α] (b : β) (items : List α) (window : List α) : Option (β × List α) :=
  if items.isPrefixOf window then some (b, items) else none

/-- The characters of a match, given its length. -/
def findMatch (length? : List Char → Option Nat) (window : List Char) :
    Option (String × List Char) :=
  (length? window).map fun n => (String.ofList (window.take n), window.take n)

/-- The length of the longest match, if the search finds one. -/
def longest? (compiled : Regex) (window : List Char) : Option Nat :=
  match compiled.expr.longest window with
  | .found length => some length
  | .missing => none
  | .gaveUp => none

/-- The length of the preferred match that begins with the window, if there is one. -/
def preferred? (compiled : Regex) (window : List Char) : Option Nat :=
  (compiled.expr.preferred none 0 window).map (·.1)

theorem findFirst_eq_some {accept : α → Bool} {window taken : List α} {b : α}
    (h : findFirst accept window = some (b, taken)) :
    ∃ left, window = b :: left ∧ taken = [b] ∧ accept b = true := by
  cases window with
  | nil => simp [findFirst] at h
  | cons x left =>
    by_cases hx : accept x = true
    · simp only [findFirst, hx, ↓reduceIte, Option.some.injEq, Prod.mk.injEq] at h
      obtain ⟨rfl, rfl⟩ := h
      exact ⟨left, rfl, rfl, hx⟩
    · simp [findFirst, hx] at h

theorem findLiteral_eq_some [BEq α] {b c : β} {items window taken : List α}
    (h : findLiteral b items window = some (c, taken)) :
    c = b ∧ taken = items ∧ items.isPrefixOf window = true := by
  simp only [findLiteral, Option.ite_none_right_eq_some, Option.some.injEq, Prod.mk.injEq] at h
  exact ⟨h.2.1.symm, h.2.2.symm, h.1⟩

theorem findLiteral_eq_none [BEq α] {b : β} {items window : List α}
    (h : findLiteral b items window = none) : items.isPrefixOf window = false := by
  simpa only [findLiteral, ite_eq_right_iff, reduceCtorEq, imp_false, Bool.not_eq_true] using h

theorem findMatch_eq_some {length? : List Char → Option Nat} {window taken : List Char} {b : String}
    (h : findMatch length? window = some (b, taken)) :
    ∃ n, length? window = some n ∧ b = String.ofList (window.take n) ∧ taken = window.take n := by
  simp only [findMatch, Option.map_eq_some_iff, Prod.mk.injEq] at h
  obtain ⟨n, hn, hb, ht⟩ := h
  exact ⟨n, hn, hb.symm, ht.symm⟩

variable [Item α]

/-- The parser passes the items that `find` names, and fails for `reason` where it names none. -/
structure Recognises (p : Parser α β) (find : List α → Option (β × List α)) (reason : String) :
    Prop where
  front : ∀ {window b taken}, find window = some (b, taken) → taken <+: window
  found : ∀ {v : View α} {b taken}, v.Valid → find v.window = some (b, taken) →
    (p.matcher v).value = .success b (v.behind taken)
  missing : ∀ {v : View α}, v.Valid → find v.window = none →
    (p.matcher v).value = .failure reason v

/-! ## Single items and the end -/

theorem recognises_satisfy (label : String) (accept : α → Bool) :
    Recognises (satisfy label accept) (findFirst accept) (expected (.satisfy ⟨label⟩)) := by
  constructor
  · intro window b taken h
    obtain ⟨left, rfl, rfl, -⟩ := findFirst_eq_some h
    exact ⟨left, rfl⟩
  · intro v b taken hv h
    obtain ⟨left, hw, rfl, ha⟩ := findFirst_eq_some h
    simp only [satisfy, ofForm, peek?_cons hw, ha, ↓reduceIte, hv.advance_width hw,
      Traced.value_pure]
  · intro v _ h
    cases hw : v.window with
    | nil => simp only [satisfy, ofForm, peek?_nil hw, Traced.value_pure]
    | cons x left =>
      have ha : accept x = false := by
        rw [hw] at h
        simpa [findFirst] using h
      simp only [satisfy, ofForm, peek?_cons hw, ha, Bool.false_eq_true, ↓reduceIte,
        Traced.value_pure]

theorem recognises_any :
    Recognises (any : Parser α α) (findFirst fun _ => true) (expected .any) := by
  constructor
  · intro window b taken h
    obtain ⟨left, rfl, rfl, -⟩ := findFirst_eq_some h
    exact ⟨left, rfl⟩
  · intro v b taken hv h
    obtain ⟨left, hw, rfl, -⟩ := findFirst_eq_some h
    simp only [any, ofForm, peek?_cons hw, hv.advance_width hw, Traced.value_pure]
  · intro v _ h
    cases hw : v.window with
    | nil => simp only [any, ofForm, peek?_nil hw, Traced.value_pure]
    | cons x left => simp [hw, findFirst] at h

theorem recognises_end : Recognises («end» : Parser α Unit) findEnd (expected .end) := by
  constructor
  · intro window b taken h
    cases window with
    | nil => cases h; exact List.nil_prefix
    | cons x left => simp [findEnd] at h
  · intro v b taken hv h
    cases hw : v.window with
    | nil =>
      rw [hw] at h
      cases h
      simp only [«end», ofForm, hv.isEmpty_iff.mpr hw, ↓reduceIte, behind_nil, Traced.value_pure]
    | cons x left => simp [hw, findEnd] at h
  · intro v hv h
    have he : v.isEmpty = false := by
      rw [Bool.eq_false_iff, ne_eq, hv.isEmpty_iff]
      intro hw
      simp [hw, findEnd] at h
    simp only [«end», ofForm, he, Bool.false_eq_true, ↓reduceIte, Traced.value_pure]

/-! ## Literals -/

/-- A literal in front of the window is passed as a whole. -/
theorem advance_literal [BEq α] [LawfulBEq α] {v : View α} (hv : v.Valid) {items : List α}
    (hp : items.isPrefixOf v.window = true) : v.advance (extent items) = v.behind items := by
  obtain ⟨left, hw⟩ := List.isPrefixOf_iff_prefix.mp hp
  exact hv.advance_extent hw.symm

theorem recognises_sequence [DecidableEq α] [Text.Rendered α] (items : List α) :
    Recognises (sequence items) (findLiteral items items)
      (expected (.sequence (Text.render items))) := by
  constructor
  · intro window b taken h
    obtain ⟨-, rfl, hp⟩ := findLiteral_eq_some h
    exact List.isPrefixOf_iff_prefix.mp hp
  · intro v b taken hv h
    obtain ⟨rfl, rfl, hp⟩ := findLiteral_eq_some h
    simp only [sequence, ofForm, hp, ↓reduceIte, advance_literal hv hp, Traced.value_pure]
  · intro v _ h
    simp only [sequence, ofForm, findLiteral_eq_none h, Bool.false_eq_true, ↓reduceIte,
      Traced.value_pure]

theorem recognises_string (literal : String) :
    Recognises (string literal) (findLiteral literal literal.toList)
      (expected (.string literal)) := by
  constructor
  · intro window b taken h
    obtain ⟨-, rfl, hp⟩ := findLiteral_eq_some h
    exact List.isPrefixOf_iff_prefix.mp hp
  · intro v b taken hv h
    obtain ⟨rfl, rfl, hp⟩ := findLiteral_eq_some h
    simp only [string, ofForm, hp, ↓reduceIte, advance_literal hv hp, Traced.value_pure]
  · intro v _ h
    simp only [string, ofForm, findLiteral_eq_none h, Bool.false_eq_true, ↓reduceIte,
      Traced.value_pure]

/-! ## Regular expressions -/

/-- However long a match is said to be, it is made of the first characters of the window. -/
theorem matched_eq {v : View Char} (hv : v.Valid) (n : Nat) :
    matched v n = .success (String.ofList (v.window.take n)) (v.behind (v.window.take n)) := by
  have hw : v.window = v.window.take n ++ v.window.drop n := (List.take_append_drop n _).symm
  simp only [matched, hv.advance_extent hw]

theorem recognises_longest (compiled : Regex) :
    Recognises (longest compiled) (findMatch (longest? compiled))
      (expected (.regex compiled.source)) := by
  constructor
  · intro window b taken h
    obtain ⟨n, -, -, rfl⟩ := findMatch_eq_some h
    exact List.take_prefix n window
  · intro v b taken hv h
    obtain ⟨n, hn, rfl, rfl⟩ := findMatch_eq_some h
    cases hr : compiled.expr.longest v.window with
    | found length =>
      simp only [longest?, hr, Option.some.injEq] at hn
      simp only [longest, ofForm, hr, hn, matched_eq hv, Traced.value_pure]
    | missing => simp [longest?, hr] at hn
    | gaveUp => simp [longest?, hr] at hn
  · intro v _ h
    cases hr : compiled.expr.longest v.window with
    | found length => simp [findMatch, longest?, hr] at h
    | missing => simp only [longest, ofForm, hr, Traced.value_pure]
    | gaveUp => simp only [longest, ofForm, hr, Traced.value_bind, Traced.value_pure]

theorem recognises_pattern (compiled : Regex) :
    Recognises (pattern compiled) (findMatch (preferred? compiled))
      (expected (.regex compiled.source)) := by
  constructor
  · intro window b taken h
    obtain ⟨n, -, -, rfl⟩ := findMatch_eq_some h
    exact List.take_prefix n window
  · intro v b taken hv h
    obtain ⟨n, hn, rfl, rfl⟩ := findMatch_eq_some h
    obtain ⟨⟨length, slots⟩, hr, rfl⟩ := Option.map_eq_some_iff.mp hn
    simp only [pattern, ofForm, hr, matched_eq hv, Traced.value_pure]
  · intro v _ h
    have hr : compiled.expr.preferred none 0 v.window = none := by
      simpa [findMatch, preferred?] using h
    simp only [pattern, ofForm, hr, Traced.value_pure]

section Lengths

variable {p : Parser Char String} {length? : List Char → Option Nat} {reason : String}
  {v : View Char} {taken left : List Char}

theorem Recognises.success_of_length (h : Recognises p (findMatch length?) reason) (hv : v.Valid)
    (hw : v.window = taken ++ left) (hn : length? v.window = some taken.length) :
    (p.matcher v).value = .success (String.ofList taken) (v.behind taken) := by
  refine h.found hv ?_
  rw [findMatch, hn, Option.map_some, hw, List.take_left]

theorem Recognises.failure_of_length (h : Recognises p (findMatch length?) reason) (hv : v.Valid)
    (hn : length? v.window = none) : (p.matcher v).value = .failure reason v := by
  refine h.missing hv ?_
  rw [findMatch, hn, Option.map_none]

end Lengths

end ParseFlow.Parser
