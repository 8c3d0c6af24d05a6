import ParseFlow.Proofs.Parser.Primitive
import ParseFlow.Proofs.Parser.Sequencing
import ParseFlow.Proofs.View.Reading

/-!
# Literals

A literal is matched as a whole or not at all. It matches where parsers of its items match one after
the other, and leaves what they leave; but where they stop behind the items that they found, a
literal stays where it began. Two literals in a row are the literal of both. A text is compared with
the window as it lies in storage, byte by byte, which comes to the same as comparing characters.
-/
namespace ParseFlow.Parser

open View

variable {α β γ δ : Type}

/-- Both parsers succeed on the view, with one rest, or neither does. -/
def PassAlike (p : Parser α β) (q : Parser α γ) (v : View α) : Prop :=
  ∀ rest, (∃ b, (p.parse v).value = .success b rest) ↔ ∃ c, (q.parse v).value = .success c rest

theorem passAlike_of_success {p : Parser α β} {q : Parser α γ} {v rest : View α} {b : β} {c : γ}
    (hp : (p.parse v).value = .success b rest) (hq : (q.parse v).value = .success c rest) :
    PassAlike p q v := by
  intro other
  rw [hp, hq]
  simp only [Outcome.success.injEq, exists_and_right, exists_eq', true_and]

theorem passAlike_of_failure {p : Parser α β} {q : Parser α γ} {v stop other : View α}
    {reason cause : String} (hp : (p.parse v).value = .failure reason stop)
    (hq : (q.parse v).value = .failure cause other) : PassAlike p q v := by
  intro rest
  rw [hp, hq]
  simp only [reduceCtorEq, exists_false]

variable [Item α]

/-- Parsers of single items in a row. -/
def itemwise [BEq α] (label : α → String) (items : List α) : Parser α (List α) :=
  list (items.map fun x => satisfy (label x) (· == x))

/-- The parser matches the literal `items` as a whole, with the value `b`. -/
structure AsWhole [BEq α] (p : Parser α β) (b : β) (items : List α) (reason : String)
    (v : View α) : Prop where
  /-- Where the items are in front of the view they are passed. -/
  passes : items <+: v.iter → ∃ rest, (p.parse v).value = .success b rest ∧ rest.IsSuffix v ∧
    v.iter = items ++ rest.iter
  /-- Elsewhere the parser fails where it began, even behind a part of the literal. -/
  fails : ¬ items <+: v.iter → (p.parse v).value = .failure reason v
  by_items : ∀ label, PassAlike p (itemwise label items) v

section Literals

variable [DecidableEq α] {v : View α} {items others : List α} {x : α}

/-! ## Items one after the other -/

/-- Where the first item is in front, the parsers of the others go on behind it. -/
theorem itemwise_found (hv : v.Valid) (label : α → String) (h : [x] <+: v.window) :
    ((itemwise label (x :: items)).matcher v).value =
      ((itemwise label items).matcher (v.behind [x])).value.map (x :: ·) := by
  obtain ⟨left, hw⟩ := h
  have hfirst : findFirst (· == x) v.window = some (x, [x]) := by
    rw [← hw]
    exact if_pos (beq_self_eq_true x)
  rw [itemwise, List.map_cons, value_list_cons,
    (recognises_satisfy (label x) (· == x)).found hv hfirst]
  rfl

theorem itemwise_missing (hv : v.Valid) (label : α → String) (h : ¬ [x] <+: v.window) :
    ((itemwise label (x :: items)).matcher v).value =
      .failure (expected (.satisfy ⟨label x⟩)) v := by
  have hnone : findFirst (· == x) v.window = none := by
    cases hw : v.window with
    | nil => rfl
    | cons y left =>
      have hy : y ≠ x := by
        rintro rfl
        exact h ⟨left, hw.symm⟩
      simp only [findFirst, beq_iff_eq, hy, if_false]
  rw [itemwise, List.map_cons, value_list_cons,
    (recognises_satisfy (label x) (· == x)).missing hv hnone]
  rfl

theorem itemwise_success (hv : v.Valid) (label : α → String) {left : List α}
    (hw : v.window = items ++ left) :
    ((itemwise label items).parse v).value = .success items (v.behind items) := by
  rw [value_parse]
  induction items generalizing v with
  | nil => rfl
  | cons x items ih =>
    have hfront : v.window = [x] ++ (items ++ left) := hw
    obtain ⟨hvalid, hrest⟩ := hv.behind_spec hfront
    rw [itemwise_found hv label ⟨_, hfront.symm⟩, ih hvalid hrest, ← behind_append]
    rfl

theorem itemwise_failure (hv : v.Valid) (label : α → String) (h : ¬ items <+: v.window) :
    ∃ reason rest, ((itemwise label items).parse v).value = .failure reason rest := by
  rw [value_parse]
  induction items generalizing v with
  | nil => exact absurd List.nil_prefix h
  | cons x items ih =>
    by_cases hx : [x] <+: v.window
    · obtain ⟨left, hw⟩ := hx
      obtain ⟨hvalid, hrest⟩ := hv.behind_spec hw.symm
      have hlater : ¬ items <+: (v.behind [x]).window := by
        rw [hrest]
        intro hp
        exact h (hw ▸ (List.prefix_append_right_inj [x]).mpr hp)
      obtain ⟨reason, rest, hfails⟩ := ih hvalid hlater
      refine ⟨reason, rest, ?_⟩
      rw [itemwise_found hv label ⟨left, hw⟩, hfails]
      rfl
    · exact ⟨_, v, itemwise_missing hv label hx⟩

/-! ## The literal as a whole -/

variable {p : Parser α β} {q : Parser α γ} {r : Parser α δ} {b : β} {c : γ} {d : δ}
  {reason cause why : String}

namespace Recognises

theorem literal_success (h : Recognises p (findLiteral b items) reason) (hv : v.Valid)
    (hp : items <+: v.window) : (p.parse v).value = .success b (v.behind items) :=
  h.found hv (if_pos (List.isPrefixOf_iff_prefix.mpr hp))

theorem literal_failure (h : Recognises p (findLiteral b items) reason) (hv : v.Valid)
    (hp : ¬ items <+: v.window) : (p.parse v).value = .failure reason v :=
  h.missing hv (if_neg (mt List.isPrefixOf_iff_prefix.mp hp))

theorem asWhole (h : Recognises p (findLiteral b items) reason) (hv : v.Valid) :
    AsWhole p b items reason v := by
  constructor
  · rw [iter_eq_window]
    rintro ⟨left, hw⟩
    obtain ⟨-, hrest⟩ := hv.behind_spec hw.symm
    refine ⟨_, h.literal_success hv ⟨left, hw⟩, hv.isSuffix_behind ⟨left, hw⟩, ?_⟩
    rw [iter_eq_window, hrest, hw]
  · rw [iter_eq_window]
    exact h.literal_failure hv
  · intro label
    by_cases hp : items <+: v.window
    · obtain ⟨left, hw⟩ := hp
      exact passAlike_of_success (h.literal_success hv ⟨left, hw⟩)
        (itemwise_success hv label hw.symm)
    · obtain ⟨cause, stop, hfails⟩ := itemwise_failure hv label hp
      exact passAlike_of_failure (h.literal_failure hv hp) hfails

/-- A literal behind another is the literal of both. -/
theorem then_passAlike (hp : Recognises p (findLiteral b items) reason)
    (hq : Recognises q (findLiteral c others) cause)
    (hr : Recognises r (findLiteral d (items ++ others)) why) (hv : v.Valid) :
    PassAlike (p.then q) r v := by
  by_cases hfront : items <+: v.window
  · obtain ⟨left, hw⟩ := hfront
    have hfirst := hp.literal_success hv ⟨left, hw⟩
    obtain ⟨hvalid, hrest⟩ := hv.behind_spec hw.symm
    have hboth : items ++ others <+: v.window ↔ others <+: (v.behind items).window := by
      rw [← hw, hrest]
      exact List.prefix_append_right_inj items
    rw [value_parse] at hfirst
    by_cases hback : others <+: (v.behind items).window
    · have hthen : ((p.then q).parse v).value = .success (b, c) (v.behind (items ++ others)) := by
        rw [value_parse, value_then, hfirst, Outcome.flatMap, ← value_parse,
          hq.literal_success hvalid hback, behind_append]
        rfl
      exact passAlike_of_success hthen (hr.literal_success hv (hboth.mpr hback))
    · have hthen : ((p.then q).parse v).value = .failure cause (v.behind items) := by
        rw [value_parse, value_then, hfirst, Outcome.flatMap, ← value_parse,
          hq.literal_failure hvalid hback]
        rfl
      exact passAlike_of_failure hthen (hr.literal_failure hv (mt hboth.mp hback))
  · have hthen : ((p.then q).parse v).value = .failure reason v := by
      rw [value_parse, value_then, ← value_parse, hp.literal_failure hv hfront]
      rfl
    have hboth : ¬ items ++ others <+: v.window := fun hall =>
      hfront ((List.prefix_append items others).trans hall)
    exact passAlike_of_failure hthen (hr.literal_failure hv hboth)

end Recognises
end Literals

/-- A literal, of text or of any other items, matches as a whole where parsers of its items do one
after the other, and two literals in a row match as the literal of both. A literal of text is in
front of a view if its bytes are, which are passed then. -/
theorem literals_match_items [DecidableEq α] [Text.Rendered α] {v : View Char} {w : View α}
    (hv : v.Valid) (hw : w.Valid) :
    (∀ l : String, AsWhole (string l) l l.toList (expected (.string l)) v ∧
      (l.toList <+: v.iter ↔ l.toByteArray.data.toList <+: v.stored) ∧
      ∀ b rest, ((string l).parse v).value = .success b rest →
        rest.offset = v.offset + l.utf8ByteSize) ∧
    (∀ first second : String,
      PassAlike ((string first).then (string second)) (string (first ++ second)) v) ∧
    (∀ items : List α,
      AsWhole (sequence items) items items (expected (.sequence (Text.render items))) w) ∧
    ∀ first second : List α,
      PassAlike ((sequence first).then (sequence second)) (sequence (first ++ second)) w := by
  refine ⟨fun l => ⟨(recognises_string l).asWhole hv, ?_, fun b rest h => ?_⟩,
    fun first second => ?_, fun items => (recognises_sequence items).asWhole hw,
    fun first second => ?_⟩
  · rw [iter_eq_window, hv.stored_eq, ← store_isPrefix_iff, store_chars, String.ofList_toList]
  · have hl : extent l.toList = l.utf8ByteSize := by rw [extent_chars, String.ofList_toList]
    by_cases hp : l.toList <+: v.window
    · rw [(recognises_string l).literal_success hv hp] at h
      cases h
      rw [← hl]
      rfl
    · rw [(recognises_string l).literal_failure hv hp] at h
      cases h
  · have hboth := recognises_string (first ++ second)
    rw [String.toList_append] at hboth
    exact (recognises_string first).then_passAlike (recognises_string second) hboth hv
  · exact (recognises_sequence first).then_passAlike (recognises_sequence second)
      (recognises_sequence (first ++ second)) hw

/-- The last letter of the literal stands behind the end of the view, and the second item is another
one. -/
theorem literals_match_items_in_part :
    let v : View Char := ⟨⟨0, ['x', 'é', '€', 'z']⟩, 1, 5⟩
    let w : View Value := ofSource ⟨1, [.int 1, .int 2]⟩
    v.Valid ∧ w.Valid ∧
      ((string "é€z").parse v).value = .failure (expected (.string "é€z")) v ∧
      (∃ rest, (∃ b, (((string "é").then (string "€")).parse v).value = .success b rest) ∧
        ((string ("é" ++ "€")).parse v).value = .success ("é" ++ "€") rest ∧ rest.iter = []) ∧
      ∃ reason, ((sequence [.int 1, .int 3]).parse w).value = .failure reason w := by
  intro v w
  have hv : v.Valid := by
    constructor
    · exact ⟨['x'], ['é', '€', 'z'], rfl, by decide⟩
    · exact ⟨['x', 'é', '€'], ['z'], rfl, by decide⟩
  have hw : w.Valid := valid_ofSource _
  have hwindow : v.iter = ['é', '€'] := by
    rw [iter_eq_window]
    decide
  obtain ⟨htext, hthen, hitems, -⟩ := literals_match_items hv hw
  refine ⟨hv, hw, (htext "é€z").1.fails ?_, ?_, _, (hitems [.int 1, .int 3]).fails ?_⟩
  · rw [hwindow]
    decide
  · obtain ⟨rest, hsuccess, -, hrest⟩ := (htext ("é" ++ "€")).1.passes (by rw [hwindow]; decide)
    refine ⟨rest, (hthen "é" "€" rest).mpr ⟨_, hsuccess⟩, hsuccess, ?_⟩
    rw [hwindow] at hrest
    exact List.append_cancel_left (hrest.symm.trans (by decide))
  · rw [iter_eq_window]
    decide

end ParseFlow.Parser
