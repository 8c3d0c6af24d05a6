import ParseFlow.Proofs.Regex.Searching

/-!
# Slots

A path through a search remembers positions in slots. A slot that is marked nowhere in the
expressions still open keeps the position it has, however the search goes on.
-/
namespace ParseFlow.Regex

namespace Expr

/-- Whether the slot is marked somewhere in the expression. -/
def marks (slot : Nat) : Expr → Bool
  | empty | set _ | look _ => false
  | mark other => other == slot
  | seq a b | alt a b => a.marks slot || b.marks slot
  | opt _ body | plus _ body | more _ body => body.marks slot

end Expr

/-- The alternative neither marks the slot nor goes on with an expression that does. -/
structure Alternative.Leaves (slot : Nat) (a : Alternative) : Prop where
  marks : slot ∉ a.marks
  rest : ∀ m ∈ a.move, m.2.marks slot = false

section Alternatives

variable {slot : Nat} {s : Surroundings} {a : Alternative} {e b : Expr} {xs ys : List Alternative}

theorem leaves_stop : Alternative.stop.Leaves slot := ⟨List.not_mem_nil, nofun⟩

theorem leaves_prefer (hx : ∀ a ∈ xs, a.Leaves slot) (hy : ∀ a ∈ ys, a.Leaves slot) :
    ∀ a ∈ Expr.prefer xs ys, a.Leaves slot := by
  intro a ha
  rcases List.mem_append.mp ha with ha | ha
  · exact hx a ha
  · split at ha
    · exact hy a (List.mem_filter.mp ha).1
    · exact hy a ha

theorem leaves_arrange {greedy : Bool} (hx : ∀ a ∈ xs, a.Leaves slot) :
    ∀ a ∈ Expr.arrange greedy xs, a.Leaves slot := by
  have hs : ∀ a ∈ [Alternative.stop], a.Leaves slot := by
    rintro a ha
    rw [List.mem_singleton.mp ha]
    exact leaves_stop
  rw [Expr.arrange]
  split
  · exact leaves_prefer hx hs
  · exact leaves_prefer hs hx

theorem leaves_continued (ha : a.Leaves slot) (hb : b.marks slot = false) :
    (Expr.continued b a).Leaves slot := by
  refine ⟨ha.marks, fun m hm => ?_⟩
  obtain ⟨⟨k, rest⟩, hrest, rfl⟩ := Option.map_eq_some_iff.mp hm
  have hr := ha.rest _ hrest
  cases rest <;> simp_all [Expr.andThen, Expr.marks]

/-- An expression without the slot has no alternative that comes to it. -/
theorem leaves_of_mem_alternatives (h : e.marks slot = false) (ha : a ∈ e.alternatives s) :
    a.Leaves slot := by
  induction e generalizing a with
  | empty =>
    rw [List.mem_singleton.mp ha]
    exact leaves_stop
  | set k =>
    rw [List.mem_singleton.mp ha]
    refine ⟨List.not_mem_nil, fun m hm => ?_⟩
    cases hm
    rfl
  | look l =>
    rw [Expr.alternatives] at ha
    split at ha
    · rw [List.mem_singleton.mp ha]
      exact leaves_stop
    · cases ha
  | mark other =>
    rw [List.mem_singleton.mp ha]
    constructor
    · intro hm
      rw [List.mem_singleton.mp hm, Expr.marks, beq_self_eq_true] at h
      cases h
    · intro m hm
      cases hm
  | seq first second ihf ihs =>
    obtain ⟨hf, hs⟩ := Bool.or_eq_false_iff.mp h
    obtain ⟨x, hx, ⟨-, y, hy, rfl⟩ | ⟨-, rfl⟩⟩ := Expr.mem_alternatives_seq.mp ha
    · have hy := ihs hs hy
      refine ⟨fun hm => ?_, hy.rest⟩
      rcases List.mem_append.mp hm with hm | hm
      · exact (ihf hf hx).marks hm
      · exact hy.marks hm
    · exact leaves_continued (ihf hf hx) hs
  | alt first second ihf ihs =>
    obtain ⟨hf, hs⟩ := Bool.or_eq_false_iff.mp h
    exact leaves_prefer (fun x hx => ihf hf hx) (fun x hx => ihs hs hx) a ha
  | opt greedy body ih => exact leaves_arrange (fun x hx => ih h hx) a ha
  | plus greedy body ih =>
    obtain ⟨x, hx, rfl⟩ := List.mem_map.mp ha
    exact leaves_continued (ih h hx) h
  | more greedy body ih =>
    refine leaves_arrange (fun x hx => ?_) a ha
    obtain ⟨y, hy, rfl⟩ := List.mem_map.mp hx
    exact leaves_continued (ih h (List.mem_filter.mp hy).1) h

end Alternatives

/-! ## Searches -/

section Searches

variable {slot : Nat} {value : Option Nat}

theorem lookup_marked {marks : List Nat} (h : slot ∉ marks) (position : Nat) (slots : Slots) :
    ((marks.map (·, position)).reverse ++ slots).lookup slot = slots.lookup slot := by
  have hn : (marks.map (·, position)).reverse.lookup slot = none := by
    rw [List.lookup_eq_none_iff]
    intro p hp
    obtain ⟨m, hm, rfl⟩ := List.mem_map.mp (List.mem_reverse.mp hp)
    rw [bne_iff_ne]
    rintro rfl
    exact h hm
  rw [List.lookup_append, hn, Option.none_or]

/-- Up to the first alternative that stops the slot is left alone. -/
theorem lookup_untilStop (position : Nat) {xs : List (Slots × Alternative)}
    (h : ∀ x ∈ xs, x.2.Leaves slot ∧ x.1.lookup slot = value) :
    (∀ m ∈ (untilStop position xs).1, m.1.lookup slot = value ∧ m.2.2.marks slot = false) ∧
      ∀ slots ∈ (untilStop position xs).2, slots.lookup slot = value := by
  induction xs with
  | nil => simp [untilStop]
  | cons x xs ih =>
    obtain ⟨slots, a⟩ := x
    obtain ⟨⟨ha, hv⟩, hxs⟩ := List.forall_mem_cons.mp h
    obtain ⟨ihm, ihs⟩ := ih hxs
    have hl := (lookup_marked ha.marks position slots).trans hv
    rw [untilStop]
    cases hm : a.move with
    | none =>
      constructor
      · intro m hmem
        cases hmem
      · intro found hf
        cases hf
        exact hl
    | some m =>
      refine ⟨List.forall_mem_cons.mpr ⟨⟨hl, ha.rest m hm⟩, ihm⟩, ihs⟩

theorem mem_of_mem_mostPreferred {t : Thread} {seen : List Expr} {threads : List Thread}
    (h : t ∈ mostPreferred seen threads) : t ∈ threads := by
  induction threads generalizing seen with
  | nil => cases h
  | cons first threads ih =>
    rw [mostPreferred] at h
    split at h
    · exact List.mem_cons_of_mem _ (ih h)
    · rcases List.mem_cons.mp h with rfl | h
      · exact List.mem_cons_self
      · exact List.mem_cons_of_mem _ (ih h)

/-- What the threads offer leaves a slot alone that none of their expressions marks. -/
theorem lookup_offered {threads : List Thread}
    (ht : ∀ t ∈ threads, t.expr.marks slot = false ∧ t.slots.lookup slot = value)
    (before : Option Char) (text : List Char) :
    ∀ x ∈ offered threads before text, x.2.Leaves slot ∧ x.1.lookup slot = value := by
  intro x hx
  obtain ⟨t, hmem, hx⟩ := List.mem_flatMap.mp hx
  obtain ⟨a, ha, rfl⟩ := List.mem_map.mp hx
  obtain ⟨hm, hv⟩ := ht t hmem
  exact ⟨leaves_of_mem_alternatives hm ha, hv⟩

theorem lookup_threadsOver {c : Char} {moves : List (Slots × CharClass × Expr)}
    (hm : ∀ m ∈ moves, m.1.lookup slot = value ∧ m.2.2.marks slot = false) :
    ∀ t ∈ threadsOver c moves, t.expr.marks slot = false ∧ t.slots.lookup slot = value := by
  intro t ht
  obtain ⟨⟨slots, k, next⟩, hmem, h⟩ := List.mem_filterMap.mp (mem_of_mem_mostPreferred ht)
  simp only [Option.ite_none_right_eq_some, Option.some.injEq] at h
  obtain ⟨-, rfl⟩ := h
  exact (hm _ hmem).symm

theorem lookup_bestAfter {position : Nat} {best : Option (Nat × Slots)} {stopped : Option Slots}
    (hb : ∀ found ∈ best, found.2.lookup slot = value)
    (hs : ∀ slots ∈ stopped, slots.lookup slot = value) :
    ∀ found ∈ bestAfter position best stopped, found.2.lookup slot = value := by
  cases stopped with
  | none => exact hb
  | some slots =>
    intro found hf
    cases hf
    exact hs slots rfl

/-- A slot that no open expression marks keeps its position to the end of the search. -/
theorem lookup_preferredFrom {threads : List Thread} {best : Option (Nat × Slots)}
    (ht : ∀ t ∈ threads, t.expr.marks slot = false ∧ t.slots.lookup slot = value)
    (hb : ∀ found ∈ best, found.2.lookup slot = value) (before : Option Char) (position : Nat)
    (text : List Char) :
    ∀ found ∈ preferredFrom before threads position best text, found.2.lookup slot = value := by
  induction text generalizing threads best before position with
  | nil =>
    cases threads with
    | nil =>
      rw [preferredFrom]
      exact hb
    | cons t threads =>
      rw [preferredFrom_end]
      exact lookup_bestAfter hb (lookup_untilStop position (lookup_offered ht before [])).2
  | cons c text ih =>
    cases threads with
    | nil =>
      rw [preferredFrom]
      exact hb
    | cons t threads =>
      obtain ⟨hmoves, hstop⟩ := lookup_untilStop position (lookup_offered ht before (c :: text))
      rw [preferredFrom_over]
      exact ih (lookup_threadsOver hmoves) (lookup_bestAfter hb hstop) _ _

end Searches
end ParseFlow.Regex
