import ParseFlow.Proofs.Pipeline.Composition

/-!
# Single values

A single value goes through the operations of a transducer one by one: each is given the last item
that the one before it put out, and the first that puts out nothing rejects it; there is no result
if one never comes to an end. Where no operation makes more than one item of one, this is what the
transducer puts out of a list of one item.
-/
namespace ParseFlow.Pipeline

variable {ω α β γ : Type}

/-! ## One operation -/

namespace Transducer

section Op

variable {op : Op ω α β} {v : α}

/-- An operation passes on the last item that its list function makes of the value. -/
theorem applyOp_of_getLast {outputs : List β} {y : β} (h : op.reference [v] = some outputs)
    (hlast : outputs.getLast? = some y) : applyOp op v = some (.ok y) := by
  rw [applyOp, op.collect_eq, h, Option.map_some, hlast]

theorem applyOp_of_nil (h : op.reference [v] = some []) :
    applyOp op v = some (.error op.stage) := by
  rw [applyOp, op.collect_eq, h]
  rfl

theorem applyOp_of_none (h : op.reference [v] = none) : applyOp op v = none := by
  rw [applyOp, op.collect_eq, h]
  rfl

end Op

theorem applyValue_filter (label : String) (keep : α → Bool) (v : α) :
    (filter label keep : Transducer ω α α).applyValue v =
      some (if keep v then .ok v else .error (.filter ⟨label⟩)) := by
  have hfilter : (Op.filter ⟨label⟩ keep : Op ω α α).reference [v] =
      some (if keep v then [v] else []) := congrArg some (by simp [List.filter_cons])
  by_cases h : keep v = true
  · rw [if_pos h] at hfilter ⊢
    exact applyOp_of_getLast hfilter rfl
  · rw [if_neg h] at hfilter ⊢
    exact applyOp_of_nil hfilter

/-! ## A row of operations -/

/-- Regrouping changes nothing for a single value either. -/
theorem Regrouped.applyValue_eq {t u : Transducer ω α β} (h : Regrouped t u) :
    t.applyValue = u.applyValue := by
  induction h with
  | refl t => rfl
  | symm _ ih => exact ih.symm
  | trans _ _ ih ih' => exact ih.trans ih'
  | compose _ _ ih ih' =>
    funext v
    rw [applyValue, ih, ih', applyValue]
  | assoc t u v =>
    funext x
    simp only [applyValue]
    obtain _ | _ | _ := t.applyValue x <;> rfl
  | identity_compose t => rfl
  | compose_identity t =>
    funext x
    rw [applyValue]
    obtain _ | _ | _ := t.applyValue x <;> rfl

end Transducer

namespace Leaves

/-- Every operation of the row puts out something, beginning with the value `v`, and the last item
put out at the end is `w`. -/
inductive Hands : {α β : Type} → Leaves ω α β → α → β → Prop
  | nil {α : Type} (v : α) : Hands nil v v
  | cons {α β γ : Type} {op : Op ω α β} {rest : Leaves ω β γ} {v : α} {outputs : List β} {y : β}
      {w : γ} (h : op.reference [v] = some outputs) (hlast : outputs.getLast? = some y)
      (hrest : Hands rest y w) : Hands (cons op rest) v w

/-- The operations before place `i` put out something, beginning with the value `v`, and the one at
place `i` puts out nothing. -/
inductive Rejects : {α β : Type} → Leaves ω α β → α → Nat → Prop
  | here {α β γ : Type} {op : Op ω α β} {rest : Leaves ω β γ} {v : α}
      (h : op.reference [v] = some []) : Rejects (cons op rest) v 0
  | later {α β γ : Type} {op : Op ω α β} {rest : Leaves ω β γ} {v : α} {outputs : List β} {y : β}
      {i : Nat} (h : op.reference [v] = some outputs) (hlast : outputs.getLast? = some y)
      (hrest : Rejects rest y i) : Rejects (cons op rest) v (i + 1)

/-- Some operations of the row put out something, beginning with the value `v`, and the one after
them expands what it is given without end. -/
inductive Stalls : {α β : Type} → Leaves ω α β → α → Prop
  | here {α β γ : Type} {op : Op ω α β} {rest : Leaves ω β γ} {v : α}
      (h : op.reference [v] = none) : Stalls (cons op rest) v
  | later {α β γ : Type} {op : Op ω α β} {rest : Leaves ω β γ} {v : α} {outputs : List β} {y : β}
      (h : op.reference [v] = some outputs) (hlast : outputs.getLast? = some y)
      (hrest : Stalls rest y) : Stalls (cons op rest) v

/-- A value is handed through the row, or rejected by one of the operations, or stalls there. -/
theorem hands_or_rejects_or_stalls (row : Leaves ω α β) (v : α) :
    (∃ w, row.Hands v w) ∨ (∃ i, row.Rejects v i) ∨ row.Stalls v := by
  induction row with
  | nil => exact .inl ⟨v, .nil v⟩
  | cons op rest ih =>
    cases h : op.reference [v] with
    | none => exact .inr (.inr (.here h))
    | some outputs =>
      cases hlast : outputs.getLast? with
      | none =>
        rw [List.getLast?_eq_none_iff] at hlast
        subst hlast
        exact .inr (.inl ⟨0, .here h⟩)
      | some y =>
        rcases ih y with ⟨w, hw⟩ | ⟨i, hi⟩ | hs
        · exact .inl ⟨w, .cons h hlast hw⟩
        · exact .inr (.inl ⟨i + 1, .later h hlast hi⟩)
        · exact .inr (.inr (.later h hlast hs))

section Apply

variable {row : Leaves ω α β} {v : α} {w : β}

theorem applyValue_cons {op : Op ω α β} {y : β} (h : Transducer.applyOp op v = some (.ok y))
    (rest : Leaves ω β γ) :
    (cons op rest).composed.applyValue v = rest.composed.applyValue y := by
  rw [composed, Transducer.applyValue, Transducer.applyValue, h]
  rfl

theorem Hands.applyValue_eq (h : row.Hands v w) : row.composed.applyValue v = some (.ok w) := by
  induction h with
  | nil v => rfl
  | cons h hlast _ ih => rw [applyValue_cons (Transducer.applyOp_of_getLast h hlast), ih]

theorem Rejects.applyValue_eq {i : Nat} (h : row.Rejects v i) :
    ∃ stage, row.stages[i]? = some stage ∧ row.composed.applyValue v = some (.error stage) := by
  induction h with
  | here h =>
    refine ⟨_, rfl, ?_⟩
    rw [composed, Transducer.applyValue, Transducer.applyValue, Transducer.applyOp_of_nil h]
    rfl
  | later h hlast _ ih =>
    obtain ⟨stage, hstage, hrest⟩ := ih
    exact ⟨stage, hstage,
      (applyValue_cons (Transducer.applyOp_of_getLast h hlast) _).trans hrest⟩

theorem Stalls.applyValue_eq (h : row.Stalls v) : row.composed.applyValue v = none := by
  induction h with
  | here h =>
    rw [composed, Transducer.applyValue, Transducer.applyValue, Transducer.applyOp_of_none h]
    rfl
  | later h hlast _ ih => rw [applyValue_cons (Transducer.applyOp_of_getLast h hlast), ih]

end Apply

end Leaves

/-! ## Operations that do not multiply -/

/-- The operation is no `scan` or `reduce`, and if it is a `flatMap`, its function yields at most one
item. -/
def Op.Sparing : Op ω α β → Prop
  | flatMap _ f => ∀ x, ∃ ys, f x = .listed ys ∧ ys.length ≤ 1
  | scan _ _ _ _ => False
  | reduce _ _ _ _ => False
  | _ => True

/-- All operations of the row are sparing. -/
def Leaves.Sparing {α β : Type} : Leaves ω α β → Prop
  | nil => True
  | cons op rest => op.Sparing ∧ rest.Sparing

/-- Of one item at most one window is made, full or short. -/
theorem length_cut_le {window : Window} (hs : 0 < window.size) (ht : 0 < window.step)
    {items : List α} (hl : items.length ≤ 1) : (cut window items).length ≤ items.length := by
  cases items with
  | nil =>
    rw [cut_nil hs]
    exact Nat.le_refl 0
  | cons x left =>
    have hleft : left = [] := by
      rw [List.length_cons] at hl
      exact List.eq_nil_of_length_eq_zero (by omega)
    subst hleft
    by_cases h : window.size ≤ [x].length
    · have hdrop : [x].drop window.step = [] := List.drop_eq_nil_of_le ht
      rw [cut_full hs ht h, hdrop, cut_nil hs]
      simp
    · rw [cut_short (by omega), shortWindow]
      split <;> simp

/-- A sparing operation makes no more items than it is given, if that is none or one. -/
theorem Op.Sparing.exists_reference {op : Op ω α β} (h : op.Sparing) (items : List α)
    (hl : items.length ≤ 1) :
    ∃ ys, op.reference items = some ys ∧ ys.length ≤ items.length := by
  cases op with
  | map label f => exact ⟨_, rfl, (List.length_map f).le⟩
  | filter label keep => exact ⟨_, rfl, List.filter_sublist.length_le⟩
  | flatMap label f =>
    choose g hg hone using h
    refine ⟨_, reference_flatMap hg items, ?_⟩
    match items with
    | [] => simp
    | [x] => simpa using hone x
  | take count => exact ⟨_, rfl, (List.take_sublist count items).length_le⟩
  | drop count => exact ⟨_, rfl, (List.drop_sublist count items).length_le⟩
  | takeWhile label keep => exact ⟨_, rfl, (List.takeWhile_sublist keep).length_le⟩
  | dropWhile label skip => exact ⟨_, rfl, (List.dropWhile_sublist skip).length_le⟩
  | windowed window hs ht => exact ⟨_, rfl, length_cut_le hs ht hl⟩
  | dedupe => exact ⟨_, rfl, (List.destutter_sublist _ items).length_le⟩
  | unique =>
    refine ⟨_, rfl, ?_⟩
    match items with
    | [] => simp
    | [x] => simp [List.eraseDups_cons]
  | sort order => exact ⟨_, rfl, (List.length_mergeSort items).le⟩
  | sortBy label order => exact ⟨_, rfl, (List.length_mergeSort items).le⟩
  | scan label f seed text => exact h.elim
  | reduce label f seed text => exact h.elim
  | zip partner text =>
    refine ⟨_, rfl, ?_⟩
    rw [List.length_zip]
    exact Nat.min_le_left _ _
  | enumerate =>
    refine ⟨_, rfl, ?_⟩
    rw [List.length_zip]
    exact Nat.min_le_right _ _
  | inspect label observe => exact ⟨_, rfl, Nat.le_refl _⟩

section Sparing

variable {op : Op ω α β} {row : Leaves ω α β} {v : α} {w : β}

theorem Op.Sparing.reference_nil (h : op.Sparing) : op.reference [] = some [] := by
  obtain ⟨ys, hys, hl⟩ := h.exists_reference [] (Nat.zero_le 1)
  have hnil : ys = [] := List.eq_nil_of_length_eq_zero (Nat.le_zero.mp hl)
  rw [hys, hnil]

/-- The last item is the only one. -/
theorem Op.Sparing.eq_singleton (h : op.Sparing) {outputs : List β}
    (ho : op.reference [v] = some outputs) (hlast : outputs.getLast? = some w) :
    outputs = [w] := by
  obtain ⟨ys, hys, hl⟩ := h.exists_reference [v] (Nat.le_refl 1)
  obtain rfl : outputs = ys := Option.some.inj (ho.symm.trans hys)
  obtain ⟨before, hb⟩ := List.getLast?_eq_some_iff.mp hlast
  rw [hb, List.length_append, List.length_singleton, List.length_singleton] at hl
  have hnone : before = [] := List.eq_nil_of_length_eq_zero (by omega)
  rw [hb, hnone, List.nil_append]

theorem Leaves.Sparing.reference_nil (h : row.Sparing) : row.reference [] = some [] := by
  induction row with
  | nil => rfl
  | cons op rest ih =>
    rw [reference, h.1.reference_nil]
    exact ih h.2

/-- What is handed through all operations is all that the row puts out. -/
theorem Leaves.Sparing.reference_of_hands (h : row.Sparing) (hv : row.Hands v w) :
    row.reference [v] = some [w] := by
  induction hv with
  | nil v => rfl
  | cons ho hlast _ ih =>
    rw [reference, ho, h.1.eq_singleton ho hlast]
    exact ih h.2

/-- Behind an operation that rejects the value nothing is put out. -/
theorem Leaves.Sparing.reference_of_rejects {i : Nat} (h : row.Sparing) (hv : row.Rejects v i) :
    row.reference [v] = some [] := by
  induction hv with
  | here hnone =>
    rw [reference, hnone]
    exact h.2.reference_nil
  | later ho hlast _ ih =>
    rw [reference, ho, h.1.eq_singleton ho hlast]
    exact ih h.2

/-- No value stalls: every sparing operation comes to an end. -/
theorem Leaves.Sparing.not_stalls (h : row.Sparing) : ¬ row.Stalls v := by
  intro hv
  induction hv with
  | here hnone =>
    obtain ⟨ys, hys, -⟩ := h.1.exists_reference [_] (Nat.le_refl 1)
    cases hnone.symm.trans hys
  | later _ _ _ ih => exact ih h.2

end Sparing

/-! ## Transducers -/

namespace Transducer

variable (t : Transducer ω α β) (v : α)

/-- However the transducer was put together, the operations of its row hand on the value. -/
theorem applyValue_eq_ok_iff (w : β) : t.applyValue v = some (.ok w) ↔ t.leaves.Hands v w := by
  rw [(regrouped_composed t).applyValue_eq]
  refine ⟨fun h => ?_, Leaves.Hands.applyValue_eq⟩
  rcases t.leaves.hands_or_rejects_or_stalls v with ⟨w', hw⟩ | ⟨i, hi⟩ | hs
  · cases h.symm.trans hw.applyValue_eq
    exact hw
  · obtain ⟨stage, -, he⟩ := hi.applyValue_eq
    cases h.symm.trans he
  · cases h.symm.trans hs.applyValue_eq

theorem applyValue_eq_error_iff (stage : Stage) :
    t.applyValue v = some (.error stage) ↔
      ∃ i, t.leaves.Rejects v i ∧ t.stages[i]? = some stage := by
  rw [(regrouped_composed t).applyValue_eq, ← t.leaves_stages]
  constructor
  · intro h
    rcases t.leaves.hands_or_rejects_or_stalls v with ⟨w, hw⟩ | ⟨i, hi⟩ | hs
    · cases h.symm.trans hw.applyValue_eq
    · obtain ⟨stage', hstage, he⟩ := hi.applyValue_eq
      cases h.symm.trans he
      exact ⟨i, hi, hstage⟩
    · cases h.symm.trans hs.applyValue_eq
  · rintro ⟨i, hi, hstage⟩
    obtain ⟨stage', hstage', he⟩ := hi.applyValue_eq
    cases hstage.symm.trans hstage'
    exact he

theorem applyValue_eq_none_iff : t.applyValue v = none ↔ t.leaves.Stalls v := by
  rw [(regrouped_composed t).applyValue_eq]
  refine ⟨fun h => ?_, Leaves.Stalls.applyValue_eq⟩
  rcases t.leaves.hands_or_rejects_or_stalls v with ⟨w, hw⟩ | ⟨i, hi⟩ | hs
  · cases h.symm.trans hw.applyValue_eq
  · obtain ⟨stage, -, he⟩ := hi.applyValue_eq
    cases h.symm.trans he
  · exact hs

/-- A value comes out of a transducer if every operation puts out something for the last output of
the one before it, and the error is the first stage that puts out nothing; there is no result if a
stage never comes to an end. If no operation multiplies, the value is all that is put out of a list
of one item, and there is an error if nothing is. -/
theorem applyValue_iff_hands :
    (∀ w, t.applyValue v = some (.ok w) ↔ t.leaves.Hands v w) ∧
    (∀ stage, t.applyValue v = some (.error stage) ↔
      ∃ i, t.leaves.Rejects v i ∧ t.stages[i]? = some stage) ∧
    (t.applyValue v = none ↔ t.leaves.Stalls v) ∧
    (t.leaves.Sparing → (∀ w, t.applyValue v = some (.ok w) ↔ t.collect [v] = some [w]) ∧
      ((∃ stage, t.applyValue v = some (.error stage)) ↔ t.collect [v] = some [])) := by
  refine ⟨t.applyValue_eq_ok_iff v, t.applyValue_eq_error_iff v, t.applyValue_eq_none_iff v,
    fun h => ?_⟩
  cases hv : t.applyValue v with
  | none => exact absurd ((t.applyValue_eq_none_iff v).mp hv) h.not_stalls
  | some result =>
    cases result with
    | ok w =>
      have hone := h.reference_of_hands ((t.applyValue_eq_ok_iff v w).mp hv)
      simp [t.collect_of_reference hone]
    | error stage =>
      obtain ⟨i, hrejects, -⟩ := (t.applyValue_eq_error_iff v stage).mp hv
      simp [t.collect_of_reference (h.reference_of_rejects hrejects)]

/-- An even number is halved and comes out in a short window; an odd one is rejected by the second
of three stages. -/
theorem applyValue_iff_hands_halved :
    let half (n : Nat) : List Nat := if n % 2 = 0 then [n / 2] else []
    let window : Window := ⟨3, 2, true⟩
    let t : Transducer Unit Nat (List Nat) :=
      ((filter "big" (3 ≤ ·)).compose (flatMap "half" half)).compose
        (op (.windowed window (by decide) (by decide)))
    t.leaves.Sparing ∧ t.applyValue 8 = some (.ok [4]) ∧ t.collect ([8] : List Nat) = some [[4]] ∧
      t.applyValue 5 = some (.error (.flatMap ⟨"half"⟩)) ∧
      t.collect ([5] : List Nat) = some [] := by
  intro half window t
  have hs : t.leaves.Sparing := by
    refine ⟨trivial, fun n => ⟨half n, rfl, ?_⟩, trivial, trivial⟩
    by_cases h : n % 2 = 0 <;> simp [half, h]
  obtain ⟨-, herror, -, hsparing⟩ := applyValue_iff_hands t 5
  have hfive : t.applyValue 5 = some (.error (.flatMap ⟨"half"⟩)) :=
    (herror _).mpr ⟨1, .later rfl rfl (.here rfl), rfl⟩
  have hnone := (hsparing hs).2.mp ⟨_, hfive⟩
  have hfour : t.collect ([8] : List Nat) = some [[4]] := t.collect_of_reference (by decide)
  exact ⟨hs, ((applyValue_iff_hands t 8).2.2.2 hs).1 [4] |>.mpr hfour, hfour, hfive, hnone⟩

/-- A scan puts out its seed as well, which a single value does not come with. -/
example :
    let t : Transducer Unit Nat Nat := op (.scan ⟨"add"⟩ (· + ·) 1 "1")
    t.leaves.reference [4] = some [1, 5] ∧ t.leaves.Hands 4 5 :=
  ⟨rfl, .cons rfl rfl (.nil 5)⟩

end Transducer
end ParseFlow.Pipeline
