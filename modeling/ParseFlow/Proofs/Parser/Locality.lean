import ParseFlow.Proofs.Parser.Built
import ParseFlow.Proofs.Parser.Primitive

/-!
# Parsing sees the window only

Two views of the same contents are parsed alike: the same value or the same reason, and rests behind
the same items. One relation between two runs carries this through every stage and combinator. For a
view beside itself it says that what is left is a suffix of the input; for two views it says that
neither the source around the window nor the place of the window in it matters.
-/
namespace ParseFlow

variable {α β γ δ : Type} [Item α]

namespace View

/-- Two valid views of the same contents. -/
structure Twin (v w : View α) : Prop where
  left : v.Valid
  right : w.Valid
  window : v.window = w.window

/-- `r` is left of `v`, and `s` of `w`, behind the same items. -/
def SamePlace (v w r s : View α) : Prop :=
  ∃ passed, passed <+: v.window ∧ r = v.behind passed ∧ s = w.behind passed

variable {v w r s r' s' : View α}

theorem Valid.twin (h : v.Valid) : Twin v v := ⟨h, h, rfl⟩

theorem SamePlace.refl (v w : View α) : SamePlace v w v w :=
  ⟨[], List.nil_prefix, (behind_nil v).symm, (behind_nil w).symm⟩

theorem SamePlace.twin (h : Twin v w) (hs : SamePlace v w r s) : Twin r s := by
  obtain ⟨passed, ⟨left, hw⟩, rfl, rfl⟩ := hs
  obtain ⟨hv, hl⟩ := h.left.behind_spec hw.symm
  obtain ⟨hv', hl'⟩ := h.right.behind_spec (h.window.symm.trans hw.symm)
  exact ⟨hv, hv', hl.trans hl'.symm⟩

theorem SamePlace.trans (h : Twin v w) (hs : SamePlace v w r s) (hs' : SamePlace r s r' s') :
    SamePlace v w r' s' := by
  obtain ⟨passed, ⟨left, hw⟩, rfl, rfl⟩ := hs
  obtain ⟨more, ⟨others, hm⟩, rfl, rfl⟩ := hs'
  rw [(h.left.behind_spec hw.symm).2] at hm
  refine ⟨passed ++ more, ⟨others, ?_⟩, ?_, ?_⟩
  · rw [List.append_assoc, hm, hw]
  · rw [behind_append]
  · rw [behind_append]

/-- The two rests have moved on both or neither. -/
theorem SamePlace.offset_eq_iff (hs : SamePlace v w r s) :
    r.offset = v.offset ↔ s.offset = w.offset := by
  obtain ⟨passed, -, rfl, rfl⟩ := hs
  simp only [behind]
  omega

end View

open View

/-! ## Outcomes and repetitions that agree -/

namespace Outcome

/-- The same value or reason or no end, and rests behind the same items of `v` and `w`. -/
inductive Alike (v w : View α) : Outcome α β → Outcome α β → Prop
  | success (b : β) {r s : View α} : SamePlace v w r s → Alike v w (.success b r) (.success b s)
  | failure (reason : String) {r s : View α} :
      SamePlace v w r s → Alike v w (.failure reason r) (.failure reason s)
  | endless {r s : View α} : SamePlace v w r s → Alike v w (.endless r) (.endless s)

variable {v w : View α} {a b : Outcome α β}

theorem Alike.map (f : β → γ) (h : Alike v w a b) : Alike v w (a.map f) (b.map f) := by
  cases h with
  | success value hs => exact .success (f value) hs
  | failure reason hs => exact .failure reason hs
  | endless hs => exact .endless hs

/-- What follows a success may use both the rests and the inputs. -/
theorem Alike.flatMap {f g : β → View α → Outcome α γ} (h : Alike v w a b)
    (hfg : ∀ value r s, SamePlace v w r s → Alike v w (f value r) (g value s)) :
    Alike v w (a.flatMap f) (b.flatMap g) := by
  cases h with
  | success value hs => exact hfg value _ _ hs
  | failure reason hs => exact .failure reason hs
  | endless hs => exact .endless hs

theorem Alike.ofValue? (value? : Option β) {r s : View α} (hs : SamePlace v w r s) :
    Alike v w (.ofValue? value? r) (.ofValue? value? s) := by
  cases value? with
  | some value => exact .success value hs
  | none => exact .endless hs

/-- Both outcomes are successes, or both are failures, or neither parse returns. -/
theorem Alike.cases (h : Alike v w a b) :
    (∃ value r s, a = .success value r ∧ b = .success value s ∧ SamePlace v w r s) ∨
      (∃ reason r s, a = .failure reason r ∧ b = .failure reason s ∧ SamePlace v w r s) ∨
      ∃ r s, a = .endless r ∧ b = .endless s ∧ SamePlace v w r s := by
  cases h with
  | success value hs => exact .inl ⟨value, _, _, rfl, rfl, hs⟩
  | failure reason hs => exact .inr (.inl ⟨reason, _, _, rfl, rfl, hs⟩)
  | endless hs => exact .inr (.inr ⟨_, _, rfl, rfl, hs⟩)

/-- An outcome on the rests is one on the inputs. -/
theorem Alike.from {r s : View α} (ht : Twin v w) (hs : SamePlace v w r s) (h : Alike r s a b) :
    Alike v w a b := by
  cases h with
  | success value hs' => exact .success value (hs.trans ht hs')
  | failure reason hs' => exact .failure reason (hs.trans ht hs')
  | endless hs' => exact .endless (hs.trans ht hs')

theorem Alike.rest (h : Alike v w a b) : SamePlace v w a.rest b.rest := by
  cases h with
  | success value hs => exact hs
  | failure reason hs => exact hs
  | endless hs => exact hs

theorem Alike.value?_eq (h : Alike v w a b) : a.value? = b.value? := by
  cases h <;> rfl

theorem Alike.reason?_eq (h : Alike v w a b) : a.reason? = b.reason? := by
  cases h <;> rfl

end Outcome

open Outcome

namespace Parser

/-- The parser fares alike on views of the same contents. -/
def Local (p : Parser α β) : Prop :=
  ∀ ⦃v w : View α⦄, Twin v w → Alike v w (p.matcher v).value (p.matcher w).value

theorem local_of_recognises {p : Parser α β} {find : List α → Option (β × List α)}
    {reason : String} (h : Recognises p find reason) : Local p := by
  intro v w ht
  cases hf : find v.window with
  | none =>
    rw [h.missing ht.left hf, h.missing ht.right (ht.window ▸ hf)]
    exact .failure reason (.refl v w)
  | some found =>
    obtain ⟨b, taken⟩ := found
    rw [h.found ht.left hf, h.found ht.right (ht.window ▸ hf)]
    exact .success b ⟨taken, h.front hf, rfl, rfl⟩

/-! ## Stages -/

theorem local_map {p : Parser α β} (hp : Local p) (label : String) (f : β → γ) :
    Local (p.map label f) := by
  intro v w ht
  rw [value_map, value_map]
  exact (hp ht).map f

theorem local_mapTraced {p : Parser α β} (hp : Local p) (label : String) (f : β → Traced γ) :
    Local (p.mapTraced label f) := by
  intro v w ht
  rw [value_mapTraced, value_mapTraced]
  exact (hp ht).map _

theorem local_flatMap {p : Parser α β} {f : β → Parser α γ} (hp : Local p) (hf : ∀ b, Local (f b))
    (label : String) : Local (p.flatMap label f) := by
  intro v w ht
  rw [value_flatMap, value_flatMap]
  exact (hp ht).flatMap fun b r s hs => .from ht hs (hf b (hs.twin ht))

theorem local_filter {p : Parser α β} (hp : Local p) (label : String) (keep : β → Bool) :
    Local (p.filter label keep) := by
  intro v w ht
  rw [value_filter, value_filter]
  refine (hp ht).flatMap fun b r s hs => ?_
  split
  · exact .success b hs
  · exact .failure _ (.refl v w)

theorem local_pipeItems {ω : Type} {p : Parser α β} (hp : Local p) (items : β → Pipeline.Items γ)
    (t : Pipeline.Transducer ω γ δ) : Local (p.pipeItems items t) := by
  intro v w ht
  rw [value_pipeItems, value_pipeItems]
  exact (hp ht).flatMap fun _ _ _ hs => .ofValue? _ hs

theorem local_thread {ω : Type} {p : Parser α β} (hp : Local p) (t : Pipeline.Transducer ω β γ) :
    Local (p.thread t) := by
  intro v w ht
  rw [value_thread, value_thread]
  refine (hp ht).flatMap fun b r s hs => ?_
  match t.applyValue b with
  | some (.ok result) => exact .success result hs
  | some (.error stage) => exact .failure _ (.refl v w)
  | none => exact .endless hs

/-! ## Sequences -/

theorem local_then {p : Parser α β} {q : Parser α γ} (hp : Local p) (hq : Local q) :
    Local (p.then q) := by
  intro v w ht
  rw [value_then, value_then]
  exact (hp ht).flatMap fun b r s hs => .from ht hs ((hq (hs.twin ht)).map _)

theorem local_precededBy {core : Parser α β} {opening : Parser α γ} (hc : Local core)
    (ho : Local opening) : Local (core.precededBy opening) := by
  intro v w ht
  rw [value_precededBy, value_precededBy]
  exact (local_then ho hc ht).map _

theorem local_followedBy {core : Parser α β} {closing : Parser α γ} (hc : Local core)
    (hl : Local closing) : Local (core.followedBy closing) := by
  intro v w ht
  rw [value_followedBy, value_followedBy]
  exact (local_then hc hl ht).map _

theorem local_between {core : Parser α β} {opening : Parser α γ} {closing : Parser α δ}
    (hc : Local core) (ho : Local opening) (hl : Local closing) :
    Local (core.between opening closing) := by
  intro v w ht
  rw [value_between, value_between]
  exact local_followedBy (local_precededBy hc ho) hl ht

theorem local_pair {first : Parser α β} {second : Parser α γ} (h₁ : Local first)
    (h₂ : Local second) : Local (pair first second) := by
  intro v w ht
  rw [value_pair, value_pair]
  exact local_then h₁ h₂ ht

theorem local_triple {first : Parser α β} {second : Parser α γ} {third : Parser α δ}
    (h₁ : Local first) (h₂ : Local second) (h₃ : Local third) :
    Local (triple first second third) := by
  intro v w ht
  rw [value_triple, value_triple]
  exact (local_then (local_then h₁ h₂) h₃ ht).map _

theorem local_list {parsers : List (Parser α β)} (h : ∀ p ∈ parsers, Local p) :
    Local (list parsers) := by
  induction parsers using List.reverseRecOn with
  | nil => exact fun v w _ => .success [] (.refl v w)
  | append_singleton parsers p ih =>
    have hinit : Local (list parsers) := ih fun q hq => h q (List.mem_append_left _ hq)
    have hlast : Local p := h p (List.mem_append_right _ (List.mem_singleton_self p))
    intro v w ht
    rw [value_list_concat, value_list_concat]
    exact (hinit ht).flatMap fun bs r s hs => .from ht hs ((hlast (hs.twin ht)).map _)

theorem local_tuple {n : Nat} {parsers : List (Parser α β)} {q : Parser α (Vector β n)}
    (h : ∀ p ∈ parsers, Local p) (hq : tuple n parsers = .ok q) : Local q := by
  intro v w ht
  rw [value_tuple hq, value_tuple hq]
  refine (local_list h ht).flatMap fun bs r s hs => ?_
  split
  · exact .success _ hs
  · exact .failure _ hs

/-! ## Repetition -/

/-- Both repetitions collect the same values and stop behind the same items. -/
theorem attempts_alike {p : Parser α β} (hp : Local p) (max : Nat) {v w : View α}
    (ht : Twin v w) : Alike v w (p.attempts max v).value (p.attempts max w).value := by
  induction max generalizing v w with
  | zero => exact .success [] (.refl v w)
  | succ max ih =>
    rcases (hp ht).cases with ⟨b, r, s, ha, hb, hs⟩ | ⟨reason, r, s, ha, hb, -⟩ | ⟨r, s, ha, hb, hs⟩
    · by_cases ho : r.offset = v.offset
      · rw [attempts_stuck ha ho, attempts_stuck hb (hs.offset_eq_iff.mp ho)]
        exact .success [b] hs
      · have ho' : s.offset ≠ w.offset := fun he => ho (hs.offset_eq_iff.mpr he)
        rw [attempts_onwards ha ho, attempts_onwards hb ho']
        exact .from ht hs ((ih (hs.twin ht)).map _)
    · rw [attempts_failure ha, attempts_failure hb]
      exact .success [] (.refl v w)
    · rw [attempts_endless ha, attempts_endless hb]
      exact .endless hs

theorem local_many {p : Parser α β} (hp : Local p) : Local p.many := by
  intro v w ht
  rw [value_many, value_many]
  exact attempts_alike hp maxIndex ht

theorem local_many1 {p : Parser α β} (hp : Local p) : Local p.many1 := by
  intro v w ht
  rw [value_many1, value_many1]
  rcases (hp ht).cases with ⟨b, r, s, ha, hb, hs⟩ | ⟨reason, r, s, ha, hb, -⟩ | ⟨r, s, ha, hb, hs⟩
  · rw [ha, hb]
    by_cases ho : r.offset = v.offset
    · simp only [ho, hs.offset_eq_iff.mp ho, ↓reduceIte]
      exact .success _ hs
    · have ho' : s.offset ≠ w.offset := fun he => ho (hs.offset_eq_iff.mpr he)
      simp only [ho, ho', ↓reduceIte]
      exact .from ht hs ((attempts_alike hp maxIndex (hs.twin ht)).map _)
  · rw [ha, hb]
    exact .failure _ (.refl v w)
  · rw [ha, hb]
    exact .endless hs

theorem local_repeat {p : Parser α β} {q : Parser α (List β)} {min max : Nat} (hp : Local p)
    (hq : p.repeat min max = .ok q) : Local q := by
  intro v w ht
  rw [value_repeat hq, value_repeat hq]
  refine (attempts_alike hp max ht).flatMap fun bs r s hs => ?_
  split
  · exact .failure _ hs
  · exact .success bs hs

/-- Every built parser is local. -/
theorem BuiltBy.local {rules : Rules} {p : Parser α β} (hp : BuiltBy rules p) : Local p := by
  induction hp with
  | string literal => exact local_of_recognises (recognises_string literal)
  | regex compiled => exact local_of_recognises (recognises_longest compiled)
  | pattern compiled => exact local_of_recognises (recognises_pattern compiled)
  | sequence items => exact local_of_recognises (recognises_sequence items)
  | satisfy label accept => exact local_of_recognises (recognises_satisfy label accept)
  | any => exact local_of_recognises recognises_any
  | «end» => exact local_of_recognises recognises_end
  | «then» _ _ hp hq => exact local_then hp hq
  | precededBy _ _ hc ho => exact local_precededBy hc ho
  | followedBy _ _ hc hl => exact local_followedBy hc hl
  | between _ _ _ hc ho hl => exact local_between hc ho hl
  | many _ hp => exact local_many hp
  | many1 _ hp => exact local_many1 hp
  | «repeat» _ hq hp => exact local_repeat hp hq
  | list _ hp => exact local_list hp
  | pair _ _ hp hq => exact local_pair hp hq
  | triple _ _ _ h₁ h₂ h₃ => exact local_triple h₁ h₂ h₃
  | tuple _ hq hp => exact local_tuple hp hq
  | map label f _ hp => exact local_map hp label f
  | mapTraced label _ _ hp => exact local_mapTraced hp label _
  | flatMap label _ _ hp hf => exact local_flatMap hp hf label
  | filter label keep _ hp => exact local_filter hp label keep
  | pipe items t _ _ hp => exact local_pipeItems hp items t
  | thread t _ _ hp => exact local_thread hp t

/-! ## What is left, and what is seen -/

section Rest

variable {p : Parser α β} {v rest : View α} {b : β}

theorem Local.isSuffix_rest (h : Local p) (hv : v.Valid) :
    (p.matcher v).value.rest.IsSuffix v := by
  obtain ⟨passed, hpass, hr, -⟩ := (h hv.twin).rest
  rw [hr]
  exact hv.isSuffix_behind hpass

theorem Local.isSuffix (h : Local p) (hv : v.Valid) (hval : (p.matcher v).value = .success b rest) :
    rest.IsSuffix v := by
  have hrest := h.isSuffix_rest hv
  rwa [hval] at hrest

end Rest

/-- What a built parser leaves of a view, in success and in failure, is a suffix of the view. -/
theorem rest_isSuffix {p : Parser α β} (hp : Built p) {v : View α} (hv : v.Valid) :
    (p.parse v).value.rest.IsSuffix v :=
  hp.local.isSuffix_rest hv

/-- The item after the first is not the same as the first: a failure behind two bytes of a window
that begins at the second byte of its source. -/
theorem rest_isSuffix_unequal_pair :
    let v : View Char := ⟨⟨0, ['x', 'é', '1', 'é', 'y']⟩, 1, 5⟩
    let p : Parser Char Char :=
      (any : Parser Char Char).flatMap "again" fun c => satisfy "same" (· == c)
    v.Valid ∧ Built p ∧ (p.parse v).value.rest.offset = 3 ∧ (p.parse v).value.rest.IsSuffix v := by
  intro v p
  have hv : v.Valid :=
    ⟨⟨['x'], ['é', '1', 'é', 'y'], rfl, by decide⟩, ⟨['x', 'é', '1', 'é'], ['y'], rfl, by decide⟩⟩
  have hp : Built p := .flatMap "again" .any fun c => .satisfy "same" (· == c)
  exact ⟨hv, hp, by decide, rest_isSuffix hp hv⟩

/-- Built parsers make the same of equal windows, wherever they lie and whatever is around them. -/
theorem parse_congr_window {p : Parser α β} (hp : Built p) {v w : View α} (hv : v.Valid)
    (hw : w.Valid) (h : v.window = w.window) :
    let a := (p.parse v).value
    let b := (p.parse w).value
    a.value? = b.value? ∧ a.reason? = b.reason? ∧ a.rest.len = b.rest.len ∧
      a.rest.window = b.rest.window ∧
      ∃ moved, a.rest.offset = v.offset + moved ∧ b.rest.offset = w.offset + moved := by
  intro a b
  have ht : Twin v w := ⟨hv, hw, h⟩
  have hab : Alike v w a b := hp.local ht
  have hr : Twin a.rest b.rest := hab.rest.twin ht
  have hlen : a.rest.len = b.rest.len := by
    rw [← hr.left.extent_window, ← hr.right.extent_window, hr.window]
  obtain ⟨passed, -, ha, hb⟩ := hab.rest
  refine ⟨hab.value?_eq, hab.reason?_eq, hlen, hr.window, extent passed, ?_, ?_⟩
  · rw [ha, behind]
  · rw [hb, behind]

/-- A whole source and the same characters in the middle of a longer one. -/
theorem parse_congr_window_inside :
    let v : View Char := ⟨⟨0, ['é', '1', '2']⟩, 0, 4⟩
    let w : View Char := ⟨⟨1, ['1', 'é', '1', '2', '3']⟩, 1, 4⟩
    let p : Parser Char (List Char) := (any : Parser Char Char).many
    Built p ∧ v.Valid ∧ w.Valid ∧ v.window = w.window ∧
      (p.parse v).value.value? = (p.parse w).value.value? := by
  intro v w p
  have hp : Built p := .many .any
  have hv : v.Valid := ⟨⟨[], ['é', '1', '2'], rfl, rfl⟩, ⟨['é', '1', '2'], [], rfl, by decide⟩⟩
  have hw : w.Valid :=
    ⟨⟨['1'], ['é', '1', '2', '3'], rfl, by decide⟩, ⟨['1', 'é', '1', '2'], ['3'], rfl, by decide⟩⟩
  have h : v.window = w.window := by decide
  exact ⟨hp, hv, hw, h, (parse_congr_window hp hv hw h).1⟩

end Parser
end ParseFlow
