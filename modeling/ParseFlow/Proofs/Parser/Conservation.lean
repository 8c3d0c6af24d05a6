import ParseFlow.Proofs.Parser.Primitive

/-!
# Text is kept in full

A parser of text that discards nothing and applies no stages keeps, in its value, all the text that
it passes: the strings and characters in the value, read from left to right, are the front of the
window, and what is left is the view behind them. The repetition loop keeps this from one attempt to
the next, whether or not the last attempt consumed anything.
-/
namespace ParseFlow

/-- Values made of strings and characters, to be read from left to right. -/
class Spelled (β : Type) where
  spell : β → List Char

export Spelled (spell)

variable {α β γ δ : Type}

instance : Spelled String := ⟨String.toList⟩
instance : Spelled Char := ⟨fun c => [c]⟩
instance : Spelled Unit := ⟨fun _ => []⟩
instance [Spelled β] [Spelled γ] : Spelled (β × γ) := ⟨fun v => spell v.1 ++ spell v.2⟩
instance [Spelled β] : Spelled (List β) := ⟨fun vs => vs.flatMap spell⟩
instance [Spelled β] : Spelled (NonEmpty β) := ⟨fun vs => spell vs.toList⟩
instance {n : Nat} [Spelled β] : Spelled (Vector β n) := ⟨fun vs => spell vs.toList⟩

theorem spell_append [Spelled β] (bs cs : List β) : spell (bs ++ cs) = spell bs ++ spell cs :=
  List.flatMap_append

theorem spell_cons [Spelled β] (b : β) (bs : List β) : spell (b :: bs) = spell b ++ spell bs :=
  List.flatMap_cons

theorem spell_singleton [Spelled β] (b : β) : spell [b] = spell b := by
  rw [spell_cons]
  exact List.append_nil _

namespace Parser

open View

/-- Parsers of text put together from primitives by combinators that discard nothing. -/
inductive Keeping : {β : Type} → [Spelled β] → Parser Char β → Prop
  | string (literal : String) : Keeping (string literal)
  | regex (compiled : Regex) : Keeping (longest compiled)
  | pattern (compiled : Regex) : Keeping (pattern compiled)
  | satisfy (label : String) (accept : Char → Bool) : Keeping (satisfy label accept)
  | any : Keeping (any : Parser Char Char)
  | end : Keeping («end» : Parser Char Unit)
  | then {β γ : Type} [Spelled β] [Spelled γ] {p : Parser Char β} {q : Parser Char γ} :
      Keeping p → Keeping q → Keeping (p.then q)
  | many {β : Type} [Spelled β] {p : Parser Char β} : Keeping p → Keeping p.many
  | many1 {β : Type} [Spelled β] {p : Parser Char β} : Keeping p → Keeping p.many1
  | repeat {β : Type} [Spelled β] {p : Parser Char β} {q : Parser Char (List β)} {min max : Nat} :
      Keeping p → p.repeat min max = .ok q → Keeping q
  | list {β : Type} [Spelled β] {parsers : List (Parser Char β)} :
      (∀ p ∈ parsers, Keeping p) → Keeping (list parsers)
  | pair {β γ : Type} [Spelled β] [Spelled γ] {first : Parser Char β} {second : Parser Char γ} :
      Keeping first → Keeping second → Keeping (pair first second)
  | triple {β γ δ : Type} [Spelled β] [Spelled γ] [Spelled δ] {first : Parser Char β}
      {second : Parser Char γ} {third : Parser Char δ} :
      Keeping first → Keeping second → Keeping third → Keeping (triple first second third)
  | tuple {β : Type} [Spelled β] {n : Nat} {parsers : List (Parser Char β)}
      {q : Parser Char (Vector β n)} :
      (∀ p ∈ parsers, Keeping p) → tuple n parsers = .ok q → Keeping q

/-- `b` spells the front of the window of `v`, and `rest` is what is left behind it. -/
def Spells [Spelled β] (v : View Char) (b : β) (rest : View Char) : Prop :=
  spell b <+: v.window ∧ rest = v.behind (spell b)

/-- Every success of the parser spells what it has passed. -/
def Lossless [Spelled β] (p : Parser Char β) : Prop :=
  ∀ ⦃v : View Char⦄ ⦃b : β⦄ ⦃rest : View Char⦄, v.Valid →
    (p.matcher v).value = .success b rest → Spells v b rest

section Spells

variable [Spelled β] [Spelled γ] [Spelled δ] {v r s : View Char} {b : β} {c : γ} {d : δ}

theorem spells_nil (v : View Char) : Spells v ([] : List β) v := ⟨List.nil_prefix, rfl⟩

theorem Spells.valid (hv : v.Valid) (h : Spells v b r) : r.Valid := by
  obtain ⟨⟨left, hw⟩, rfl⟩ := h
  exact (hv.behind_spec hw.symm).1

/-- A value spells the same if it is made of the same characters. -/
theorem Spells.of_eq (h : Spells v b r) (he : spell c = spell b) : Spells v c r := by
  rw [Spells, he]
  exact h

/-- One value behind another spells both in a row. -/
theorem Spells.append (hv : v.Valid) (hb : Spells v b r) (hc : Spells r c s)
    (he : spell d = spell b ++ spell c) : Spells v d s := by
  obtain ⟨⟨left, hw⟩, rfl⟩ := hb
  obtain ⟨⟨others, ho⟩, rfl⟩ := hc
  rw [(hv.behind_spec hw.symm).2] at ho
  refine ⟨⟨others, ?_⟩, ?_⟩
  · rw [he, List.append_assoc, ho, hw]
  · rw [he, behind_append]

end Spells

theorem lossless_of_recognises [Spelled β] {p : Parser Char β}
    {find : List Char → Option (β × List Char)} {reason : String} (h : Recognises p find reason)
    (hs : ∀ {window b taken}, find window = some (b, taken) → spell b = taken) : Lossless p := by
  intro v b rest hv hp
  cases hf : find v.window with
  | none =>
    rw [h.missing hv hf] at hp
    cases hp
  | some found =>
    obtain ⟨c, taken⟩ := found
    rw [h.found hv hf] at hp
    cases hp
    rw [Spells, hs hf]
    exact ⟨h.front hf, rfl⟩

section Primitives

theorem lossless_string (literal : String) : Lossless (string literal) := by
  refine lossless_of_recognises (recognises_string literal) fun h => ?_
  obtain ⟨rfl, rfl, -⟩ := findLiteral_eq_some h
  rfl

theorem lossless_of_findMatch {p : Parser Char String} {length? : List Char → Option Nat}
    {reason : String} (h : Recognises p (findMatch length?) reason) : Lossless p := by
  refine lossless_of_recognises h fun hf => ?_
  obtain ⟨n, -, rfl, rfl⟩ := findMatch_eq_some hf
  exact String.toList_ofList

theorem lossless_of_findFirst {p : Parser Char Char} {accept : Char → Bool} {reason : String}
    (h : Recognises p (findFirst accept) reason) : Lossless p := by
  refine lossless_of_recognises h fun hf => ?_
  obtain ⟨left, -, rfl, -⟩ := findFirst_eq_some hf
  rfl

theorem lossless_end : Lossless («end» : Parser Char Unit) := by
  refine lossless_of_recognises recognises_end @fun window b taken h => ?_
  cases window with
  | nil => cases h; rfl
  | cons x left => simp [findEnd] at h

end Primitives

variable [Spelled β] [Spelled γ] [Spelled δ]

theorem lossless_then {p : Parser Char β} {q : Parser Char γ} (hp : Lossless p)
    (hq : Lossless q) : Lossless (p.then q) := by
  intro v both rest hv h
  rw [value_then] at h
  obtain ⟨b, r, ha, h⟩ := Outcome.flatMap_eq_success_iff.mp h
  obtain ⟨c, hc, rfl⟩ := Outcome.map_eq_success_iff.mp h
  have hb := hp hv ha
  exact hb.append hv (hq (hb.valid hv) hc) rfl

theorem lossless_pair {first : Parser Char β} {second : Parser Char γ} (h₁ : Lossless first)
    (h₂ : Lossless second) : Lossless (pair first second) := by
  intro v both rest hv h
  rw [value_pair] at h
  exact lossless_then h₁ h₂ hv h

/-- A stage that only regroups a value keeps its characters. -/
theorem lossless_regrouped {p : Parser Char β} {q : Parser Char γ} {f : β → γ} (hp : Lossless p)
    (hq : ∀ v, (q.matcher v).value = (p.matcher v).value.map f)
    (hf : ∀ b, spell (f b) = spell b) : Lossless q := by
  intro v c rest hv h
  rw [hq] at h
  obtain ⟨b, ha, rfl⟩ := Outcome.map_eq_success_iff.mp h
  exact (hp hv ha).of_eq (hf b)

theorem lossless_triple {first : Parser Char β} {second : Parser Char γ} {third : Parser Char δ}
    (h₁ : Lossless first) (h₂ : Lossless second) (h₃ : Lossless third) :
    Lossless (triple first second third) := by
  refine lossless_regrouped (lossless_then (lossless_then h₁ h₂) h₃)
    (value_triple first second third) fun b => ?_
  exact (List.append_assoc (spell b.1.1) (spell b.1.2) (spell b.2)).symm

theorem lossless_list {parsers : List (Parser Char β)} (h : ∀ p ∈ parsers, Lossless p) :
    Lossless (list parsers) := by
  induction parsers using List.reverseRecOn with
  | nil =>
    intro v bs rest _ h
    rw [value_list_nil] at h
    cases h
    exact spells_nil v
  | append_singleton parsers p ih =>
    have hinit : Lossless (list parsers) := ih fun q hq => h q (List.mem_append_left _ hq)
    have hlast : Lossless p := h p (List.mem_append_right _ (List.mem_singleton_self p))
    refine lossless_regrouped (f := fun both : List β × β => both.1 ++ [both.2])
      (lossless_then hinit hlast) (fun v => ?_) fun both => ?_
    · rw [value_list_concat, value_then, Outcome.map_flatMap]
      simp only [Outcome.map_map]
    · rw [spell_append, spell_singleton]
      rfl

theorem lossless_tuple {n : Nat} {parsers : List (Parser Char β)} {q : Parser Char (Vector β n)}
    (h : ∀ p ∈ parsers, Lossless p) (hq : tuple n parsers = .ok q) : Lossless q := by
  intro v bs rest hv hs
  rw [value_tuple hq] at hs
  obtain ⟨values, r, ha, hs⟩ := Outcome.flatMap_eq_success_iff.mp hs
  split at hs
  · cases hs
    exact (lossless_list h hv ha).of_eq rfl
  · cases hs

/-! ## Repetition -/

/-- However many attempts there are, their values spell what lies between the input and the rest. -/
theorem attempts_spells {p : Parser Char β} (hp : Lossless p) (max : Nat) {v rest : View Char}
    {bs : List β} (hv : v.Valid) (h : (p.attempts max v).value = .success bs rest) :
    Spells v bs rest := by
  induction max generalizing v bs with
  | zero =>
    cases h
    exact spells_nil _
  | succ max ih =>
    cases ha : (p.matcher v).value with
    | failure reason r =>
      rw [attempts_failure ha] at h
      cases h
      exact spells_nil _
    | endless r => rw [attempts_endless ha] at h; cases h
    | success b r =>
      have hb := hp hv ha
      by_cases ho : r.offset = v.offset
      · rw [attempts_stuck ha ho] at h
        cases h
        exact hb.of_eq (spell_singleton b)
      · rw [attempts_onwards ha ho] at h
        obtain ⟨cs, hcs, rfl⟩ := Outcome.map_eq_success_iff.mp h
        exact hb.append hv (ih (hb.valid hv) hcs) (spell_cons b cs)

theorem lossless_many {p : Parser Char β} (hp : Lossless p) : Lossless p.many := by
  intro v bs rest hv h
  rw [value_many] at h
  exact attempts_spells hp maxIndex hv h

theorem lossless_many1 {p : Parser Char β} (hp : Lossless p) : Lossless p.many1 := by
  intro v bs rest hv h
  rw [value_many1] at h
  cases ha : (p.matcher v).value with
  | failure reason r => rw [ha] at h; cases h
  | endless r => rw [ha] at h; cases h
  | success b r =>
    have hb := hp hv ha
    simp only [ha] at h
    split at h
    · cases h
      exact hb.of_eq (spell_singleton b)
    · obtain ⟨cs, hcs, rfl⟩ := Outcome.map_eq_success_iff.mp h
      exact hb.append hv (attempts_spells hp maxIndex (hb.valid hv) hcs) (spell_cons b cs)

theorem lossless_repeat {p : Parser Char β} {q : Parser Char (List β)} {min max : Nat}
    (hp : Lossless p) (hq : p.repeat min max = .ok q) : Lossless q := by
  intro v bs rest hv h
  rw [value_repeat hq] at h
  obtain ⟨values, r, ha, h⟩ := Outcome.flatMap_eq_success_iff.mp h
  split at h
  · cases h
  · cases h
    exact attempts_spells hp max hv ha

/-- Every keeping parser is lossless. -/
theorem Keeping.lossless {p : Parser Char β} (hp : Keeping p) : Lossless p := by
  induction hp with
  | string literal => exact lossless_string literal
  | regex compiled => exact lossless_of_findMatch (recognises_longest compiled)
  | pattern compiled => exact lossless_of_findMatch (recognises_pattern compiled)
  | satisfy label accept => exact lossless_of_findFirst (recognises_satisfy label accept)
  | any => exact lossless_of_findFirst recognises_any
  | «end» => exact lossless_end
  | «then» _ _ hp hq => exact lossless_then hp hq
  | many _ hp => exact lossless_many hp
  | many1 _ hp => exact lossless_many1 hp
  | «repeat» _ hq hp => exact lossless_repeat hp hq
  | list _ hp => exact lossless_list hp
  | pair _ _ hp hq => exact lossless_pair hp hq
  | triple _ _ _ h₁ h₂ h₃ => exact lossless_triple h₁ h₂ h₃
  | tuple _ hq hp => exact lossless_tuple hp hq

/-- The value of a success spells exactly the text from where the parse began to where it
stopped. -/
theorem spell_eq_passed {p : Parser Char β} (hp : Keeping p) {v rest : View Char} {b : β}
    (hv : v.Valid) (h : (p.parse v).value = .success b rest) :
    v.offset ≤ rest.offset ∧ String.ofList (spell b) = (v.upTo rest).text := by
  obtain ⟨⟨left, hw⟩, rfl⟩ := hp.lossless hv h
  constructor
  · exact Nat.le_add_right _ _
  · rw [text, hv.window_upTo hw.symm]

/-- Repeated two-byte letters, then one more item, in a window that begins at the second byte of its
source and goes on behind the place where the parse stops. -/
theorem spell_eq_passed_letters :
    let v : View Char := ⟨⟨0, ['x', 'é', 'é', '1', 'é', 'y']⟩, 1, 7⟩
    let p : Parser Char (List String × Char) := pair (string "é").many any
    let rest : View Char := (p.parse v).value.rest
    Keeping p ∧ v.Valid ∧ (p.parse v).value.value? = some (["é", "é"], '1') ∧ rest.offset = 6 ∧
      String.ofList (spell (["é", "é"], '1')) = (v.upTo rest).text := by
  intro v p rest
  have hp : Keeping p := .pair (.many (.string "é")) .any
  have hv : v.Valid :=
    ⟨⟨['x'], ['é', 'é', '1', 'é', 'y'], rfl, by decide⟩,
      ⟨['x', 'é', 'é', '1', 'é'], ['y'], rfl, by decide⟩⟩
  have hb : (p.parse v).value.value? = some (["é", "é"], '1') := by decide
  have h : (p.parse v).value = .success (["é", "é"], '1') rest := Outcome.eq_success hb
  exact ⟨hp, hv, hb, by decide, (spell_eq_passed hp hv h).2⟩

end Parser
end ParseFlow
