import ParseFlow.Regex.Search

/-!
# What an expression matches

A text fits an expression, between what stands before and behind it, by the form of the expression
alone: no order of preference and no search comes into this. Alternatives are read against it. To
stop is to fit the empty text, and a text that begins with some character fits exactly if the rest of
it fits what is left of the expression behind that character.
-/
namespace ParseFlow.Regex

/-- The character before what follows `taken`. -/
def lastOf (before : Option Char) : List Char → Option Char
  | [] => before
  | c :: taken => lastOf (some c) taken

namespace Expr

/-- The expression matches `taken` where it stands behind the character `before` and in front of
`left`. -/
inductive Fits : Expr → (before : Option Char) → (taken left : List Char) → Prop
  | empty {before : Option Char} {left : List Char} : Fits empty before [] left
  | set {k : CharClass} {c : Char} {before : Option Char} {left : List Char} :
      k.contains c = true → Fits (set k) before [c] left
  | look {l : Look} {before : Option Char} {left : List Char} :
      l.holds ⟨before, left.head?⟩ = true → Fits (look l) before [] left
  | mark {slot : Nat} {before : Option Char} {left : List Char} : Fits (mark slot) before [] left
  | seq {a b : Expr} {before : Option Char} {first second left : List Char} :
      Fits a before first (second ++ left) → Fits b (lastOf before first) second left →
      Fits (seq a b) before (first ++ second) left
  | altLeft {a b : Expr} {before : Option Char} {taken left : List Char} :
      Fits a before taken left → Fits (alt a b) before taken left
  | altRight {a b : Expr} {before : Option Char} {taken left : List Char} :
      Fits b before taken left → Fits (alt a b) before taken left
  | optNone {greedy : Bool} {body : Expr} {before : Option Char} {left : List Char} :
      Fits (opt greedy body) before [] left
  | optSome {greedy : Bool} {body : Expr} {before : Option Char} {taken left : List Char} :
      Fits body before taken left → Fits (opt greedy body) before taken left
  | plus {greedy : Bool} {body : Expr} {before : Option Char} {first second left : List Char} :
      Fits body before first (second ++ left) →
      Fits (more greedy body) (lastOf before first) second left →
      Fits (plus greedy body) before (first ++ second) left
  | moreNone {greedy : Bool} {body : Expr} {before : Option Char} {left : List Char} :
      Fits (more greedy body) before [] left
  | moreSome {greedy : Bool} {body : Expr} {before : Option Char} {taken left : List Char} :
      Fits (plus greedy body) before taken left → Fits (more greedy body) before taken left

end Expr

/-! ## Lists of alternatives -/

/-- What is left of an alternative behind the character `c`, if it takes it. -/
def Alternative.over? (c : Char) (a : Alternative) : Option Expr :=
  match a.move with
  | some (k, rest) => if k.contains c then some rest else none
  | none => none

/-- One of the alternatives is to stop. -/
def MayStop (xs : List Alternative) : Prop := ∃ a ∈ xs, a.isStop = true

/-- One of the alternatives takes the character `c` and goes on with `rest`. -/
def MayTake (c : Char) (rest : Expr) (xs : List Alternative) : Prop :=
  ∃ a ∈ xs, a.over? c = some rest

section Lists

variable {c : Char} {rest b : Expr} {xs ys : List Alternative}

theorem isMove_of_over? {a : Alternative} (h : a.over? c = some rest) : a.isMove = true := by
  cases hm : a.move with
  | none => rw [Alternative.over?, hm] at h; cases h
  | some m => rw [Alternative.isMove, hm]; rfl

@[simp] theorem mayStop_nil : ¬ MayStop [] := by simp [MayStop]

@[simp] theorem mayStop_append : MayStop (xs ++ ys) ↔ MayStop xs ∨ MayStop ys := by
  simp only [MayStop, List.mem_append, or_and_right, exists_or]

@[simp] theorem mayTake_append :
    MayTake c rest (xs ++ ys) ↔ MayTake c rest xs ∨ MayTake c rest ys := by
  simp only [MayTake, List.mem_append, or_and_right, exists_or]

@[simp] theorem mayStop_stop : MayStop [.stop] := ⟨.stop, List.mem_singleton_self _, rfl⟩

@[simp] theorem mayTake_stop : ¬ MayTake c rest [.stop] := by
  simp [MayTake, Alternative.over?, Alternative.stop]

@[simp] theorem mayStop_filter_isMove : ¬ MayStop (xs.filter (·.isMove)) := by
  rintro ⟨a, ha, hs⟩
  have hm := (List.mem_filter.mp ha).2
  simp only [Alternative.isMove, Alternative.isStop] at hm hs
  simp_all

@[simp] theorem mayTake_filter_isMove :
    MayTake c rest (xs.filter (·.isMove)) ↔ MayTake c rest xs := by
  constructor
  · rintro ⟨a, ha, ht⟩
    exact ⟨a, (List.mem_filter.mp ha).1, ht⟩
  · rintro ⟨a, ha, ht⟩
    exact ⟨a, List.mem_filter.mpr ⟨ha, isMove_of_over? ht⟩, ht⟩

theorem any_isStop_iff : xs.any (·.isStop) = true ↔ MayStop xs := List.any_eq_true

@[simp] theorem mayStop_prefer : MayStop (Expr.prefer xs ys) ↔ MayStop xs ∨ MayStop ys := by
  rw [Expr.prefer, mayStop_append]
  by_cases h : xs.any (·.isStop) = true
  · simp only [h, ↓reduceIte, any_isStop_iff.mp h, true_or]
  · simp only [h, Bool.false_eq_true, ↓reduceIte]

@[simp] theorem mayTake_prefer :
    MayTake c rest (Expr.prefer xs ys) ↔ MayTake c rest xs ∨ MayTake c rest ys := by
  rw [Expr.prefer, mayTake_append]
  split
  · rw [mayTake_filter_isMove]
  · rfl

@[simp] theorem mayStop_arrange {greedy : Bool} : MayStop (Expr.arrange greedy xs) := by
  cases greedy <;> simp [Expr.arrange]

@[simp] theorem mayTake_arrange {greedy : Bool} :
    MayTake c rest (Expr.arrange greedy xs) ↔ MayTake c rest xs := by
  cases greedy <;> simp [Expr.arrange]

theorem over?_continued (a : Alternative) :
    (Expr.continued b a).over? c = (a.over? c).map (·.andThen b) := by
  cases hm : a.move with
  | none => simp only [Expr.continued, Alternative.over?, hm, Option.map_none]
  | some m =>
    simp only [Expr.continued, Alternative.over?, hm, Option.map_some]
    split <;> rfl

@[simp] theorem mayStop_continued : MayStop (xs.map (Expr.continued b)) ↔ MayStop xs := by
  have hs : ∀ a, (Expr.continued b a).isStop = a.isStop := fun a => Option.isNone_map
  constructor
  · rintro ⟨x, hx, hstop⟩
    obtain ⟨a, ha, rfl⟩ := List.mem_map.mp hx
    exact ⟨a, ha, (hs a).symm.trans hstop⟩
  · rintro ⟨a, ha, hstop⟩
    exact ⟨_, List.mem_map_of_mem ha, (hs a).trans hstop⟩

@[simp] theorem mayTake_continued :
    MayTake c rest (xs.map (Expr.continued b)) ↔ ∃ r, MayTake c r xs ∧ r.andThen b = rest := by
  constructor
  · rintro ⟨x, hx, ht⟩
    obtain ⟨a, ha, rfl⟩ := List.mem_map.mp hx
    rw [over?_continued] at ht
    obtain ⟨r, hr, he⟩ := Option.map_eq_some_iff.mp ht
    exact ⟨r, ⟨a, ha, hr⟩, he⟩
  · rintro ⟨r, ⟨a, ha, hr⟩, he⟩
    refine ⟨_, List.mem_map_of_mem ha, ?_⟩
    rw [over?_continued, hr, Option.map_some, he]

end Lists

/-! ## Alternatives of an expression -/

namespace Expr

variable {s : Surroundings} {c : Char} {rest a b body : Expr} {greedy : Bool}

attribute [local simp] alternatives

theorem mem_alternatives_seq {x : Alternative} :
    x ∈ (seq a b).alternatives s ↔ ∃ y ∈ a.alternatives s,
      (y.isStop = true ∧ ∃ z ∈ b.alternatives s, x = z.after y.marks) ∨
        (y.isMove = true ∧ x = continued b y) := by
  simp only [alternatives, List.mem_flatMap]
  refine exists_congr fun y => and_congr_right fun _ => ?_
  cases hm : y.move <;> simp [Alternative.isStop, Alternative.isMove, hm, eq_comm]

theorem mayStop_seq :
    MayStop ((seq a b).alternatives s) ↔
      MayStop (a.alternatives s) ∧ MayStop (b.alternatives s) := by
  constructor
  · rintro ⟨x, hx, hs⟩
    obtain ⟨y, hy, ⟨hstop, z, hz, rfl⟩ | ⟨hmove, rfl⟩⟩ := mem_alternatives_seq.mp hx
    · exact ⟨⟨y, hy, hstop⟩, ⟨z, hz, hs⟩⟩
    · -- An alternative that takes a character still takes it before another expression.
      simp only [Alternative.isStop, Alternative.isMove, continued] at hs hmove
      simp_all
  · rintro ⟨⟨y, hy, hstop⟩, ⟨z, hz, hs⟩⟩
    exact ⟨z.after y.marks, mem_alternatives_seq.mpr ⟨y, hy, .inl ⟨hstop, z, hz, rfl⟩⟩, hs⟩

theorem mayTake_seq :
    MayTake c rest ((seq a b).alternatives s) ↔
      (∃ r, MayTake c r (a.alternatives s) ∧ r.andThen b = rest) ∨
        (MayStop (a.alternatives s) ∧ MayTake c rest (b.alternatives s)) := by
  constructor
  · rintro ⟨x, hx, ht⟩
    obtain ⟨y, hy, ⟨hstop, z, hz, rfl⟩ | ⟨hmove, rfl⟩⟩ := mem_alternatives_seq.mp hx
    · exact .inr ⟨⟨y, hy, hstop⟩, ⟨z, hz, ht⟩⟩
    · rw [over?_continued] at ht
      obtain ⟨r, hr, he⟩ := Option.map_eq_some_iff.mp ht
      exact .inl ⟨r, ⟨y, hy, hr⟩, he⟩
  · rintro (⟨r, ⟨y, hy, hr⟩, he⟩ | ⟨⟨y, hy, hstop⟩, ⟨z, hz, ht⟩⟩)
    · refine ⟨continued b y, mem_alternatives_seq.mpr ⟨y, hy, .inr ⟨isMove_of_over? hr, rfl⟩⟩, ?_⟩
      rw [over?_continued, hr, Option.map_some, he]
    · exact ⟨z.after y.marks, mem_alternatives_seq.mpr ⟨y, hy, .inl ⟨hstop, z, hz, rfl⟩⟩, ht⟩

/-- A repetition takes what its body takes, and goes on with further iterations. -/
theorem mayTake_plus :
    MayTake c rest ((plus greedy body).alternatives s) ↔
      ∃ r, MayTake c r (body.alternatives s) ∧ r.andThen (more greedy body) = rest := by
  rw [alternatives, mayTake_continued]

theorem mayTake_more :
    MayTake c rest ((more greedy body).alternatives s) ↔
      MayTake c rest ((plus greedy body).alternatives s) := by
  rw [mayTake_plus, alternatives, mayTake_arrange, mayTake_continued]
  simp only [mayTake_filter_isMove]

/-! ## What fits -/

variable {before : Option Char} {taken left : List Char}

theorem fits_andThen : (a.andThen b).Fits before taken left ↔ (seq a b).Fits before taken left := by
  cases a with
  | empty =>
    constructor
    · intro h
      exact .seq .empty h
    · intro h
      cases h with
      | seq ha hb => cases ha; exact hb
  | _ => rfl

/-- To stop is to match the empty text. -/
theorem mayStop_iff_fits (e : Expr) :
    MayStop (e.alternatives ⟨before, left.head?⟩) ↔ e.Fits before [] left := by
  induction e generalizing before left with
  | empty => exact ⟨fun _ => .empty, fun _ => mayStop_stop⟩
  | set k =>
    constructor
    · simp [MayStop, Alternative.isStop]
    · nofun
  | look l =>
    rw [alternatives]
    by_cases h : l.holds ⟨before, left.head?⟩ = true
    · simp only [h, ↓reduceIte, mayStop_stop, true_iff]
      exact .look h
    · simp only [h, Bool.false_eq_true, ↓reduceIte, mayStop_nil, false_iff]
      intro hf
      cases hf with
      | look hl => exact h hl
  | mark slot => exact ⟨fun _ => .mark, fun _ => ⟨_, List.mem_singleton_self _, rfl⟩⟩
  | seq a b iha ihb =>
    rw [mayStop_seq, iha, ihb]
    constructor
    · rintro ⟨ha, hb⟩
      exact @Fits.seq _ _ _ [] [] left ha hb
    · intro h
      generalize ht : [] = taken at h
      cases h with
      | seq ha hb =>
        obtain ⟨rfl, rfl⟩ := List.append_eq_nil_iff.mp ht.symm
        exact ⟨ha, hb⟩
  | alt a b iha ihb =>
    rw [alternatives, mayStop_prefer, iha, ihb]
    constructor
    · rintro (h | h)
      · exact .altLeft h
      · exact .altRight h
    · intro h
      cases h with
      | altLeft h => exact .inl h
      | altRight h => exact .inr h
  | opt greedy body ih => exact ⟨fun _ => .optNone, fun _ => mayStop_arrange⟩
  | plus greedy body ih =>
    rw [alternatives, mayStop_continued, ih]
    constructor
    · intro h
      exact @Fits.plus _ _ _ [] [] left h .moreNone
    · intro h
      generalize ht : [] = taken at h
      cases h with
      | plus hb hm =>
        obtain ⟨rfl, rfl⟩ := List.append_eq_nil_iff.mp ht.symm
        exact hb
  | more greedy body ih => exact ⟨fun _ => .moreNone, fun _ => mayStop_arrange⟩

/-- What fits behind the first character fits as a whole. By induction on the expression: only the
part that takes the character changes. -/
theorem fits_of_mayTake {e : Expr} (h : MayTake c rest (e.alternatives ⟨before, some c⟩))
    (hr : rest.Fits (some c) taken left) : e.Fits before (c :: taken) left := by
  induction e generalizing rest taken left with
  | empty => simp at h
  | set k =>
    obtain ⟨a, ha, ht⟩ := h
    obtain rfl := List.mem_singleton.mp ha
    simp only [Alternative.over?, Option.ite_none_right_eq_some, Option.some.injEq] at ht
    obtain ⟨hk, rfl⟩ := ht
    cases hr
    exact .set hk
  | look l =>
    rw [alternatives] at h
    split at h
    · exact absurd h mayTake_stop
    · obtain ⟨a, ha, -⟩ := h
      cases ha
  | mark slot =>
    obtain ⟨a, ha, ht⟩ := h
    obtain rfl := List.mem_singleton.mp ha
    cases ht
  | seq a b iha ihb =>
    obtain (⟨r, hra, rfl⟩ | ⟨hstop, hb⟩) := mayTake_seq.mp h
    · rw [fits_andThen] at hr
      cases hr with
      | @seq _ _ _ first second _ hfirst hsecond =>
        exact @Fits.seq _ _ _ (c :: first) second left (iha hra hfirst) hsecond
    · have ha : a.Fits before [] (c :: taken ++ left) := (mayStop_iff_fits a).mp hstop
      exact .seq ha (ihb hb hr)
  | alt a b iha ihb =>
    rw [alternatives, mayTake_prefer] at h
    rcases h with h | h
    · exact .altLeft (iha h hr)
    · exact .altRight (ihb h hr)
  | opt greedy body ih =>
    rw [alternatives, mayTake_arrange] at h
    exact .optSome (ih h hr)
  | plus greedy body ih =>
    obtain ⟨r, hb, rfl⟩ := mayTake_plus.mp h
    rw [fits_andThen] at hr
    cases hr with
    | @seq _ _ _ first second _ hfirst hsecond =>
      exact @Fits.plus _ _ _ (c :: first) second left (ih hb hfirst) hsecond
  | more greedy body ih =>
    obtain ⟨r, hb, rfl⟩ := mayTake_plus.mp (mayTake_more.mp h)
    rw [fits_andThen] at hr
    cases hr with
    | @seq _ _ _ first second _ hfirst hsecond =>
      exact .moreSome (@Fits.plus _ _ _ (c :: first) second left (ih hb hfirst) hsecond)

/-- What fits and begins with a character is taken by some alternative. By induction on how it fits:
parts that match the empty text are passed over, and so are empty iterations. -/
theorem exists_mayTake_of_fits {e : Expr} {text : List Char} (h : e.Fits before text left)
    (ht : text = c :: taken) :
    ∃ rest, MayTake c rest (e.alternatives ⟨before, some c⟩) ∧ rest.Fits (some c) taken left := by
  induction h generalizing taken with
  | empty => cases ht
  | set hk =>
    cases ht
    refine ⟨.empty, ⟨_, List.mem_singleton_self _, ?_⟩, .empty⟩
    simp only [Alternative.over?, hk, ↓reduceIte]
  | look _ => cases ht
  | mark => cases ht
  | @seq a b before first second left hfirst hsecond iha ihb =>
    cases first with
    | nil =>
      obtain rfl : second = c :: taken := ht
      have hstop : MayStop (a.alternatives ⟨before, some c⟩) := (mayStop_iff_fits a).mpr hfirst
      obtain ⟨rest, hb, hr⟩ := ihb rfl
      exact ⟨rest, mayTake_seq.mpr (.inr ⟨hstop, hb⟩), hr⟩
    | cons d first =>
      obtain ⟨rfl, rfl⟩ := List.cons.inj ht
      obtain ⟨r, ha, hr⟩ := iha rfl
      exact ⟨_, mayTake_seq.mpr (.inl ⟨r, ha, rfl⟩), fits_andThen.mpr (.seq hr hsecond)⟩
  | altLeft _ ih =>
    obtain ⟨rest, ha, hr⟩ := ih ht
    exact ⟨rest, mayTake_prefer.mpr (.inl ha), hr⟩
  | altRight _ ih =>
    obtain ⟨rest, hb, hr⟩ := ih ht
    exact ⟨rest, mayTake_prefer.mpr (.inr hb), hr⟩
  | optNone => cases ht
  | optSome _ ih =>
    obtain ⟨rest, hb, hr⟩ := ih ht
    exact ⟨rest, mayTake_arrange.mpr hb, hr⟩
  | @plus greedy body before first second left hfirst hsecond iha ihb =>
    cases first with
    | nil =>
      obtain ⟨rest, hmore, hr⟩ := ihb ht
      exact ⟨rest, mayTake_more.mp hmore, hr⟩
    | cons d first =>
      obtain ⟨rfl, rfl⟩ := List.cons.inj ht
      obtain ⟨r, ha, hr⟩ := iha rfl
      exact ⟨_, mayTake_plus.mpr ⟨r, ha, rfl⟩, fits_andThen.mpr (.seq hr hsecond)⟩
  | moreNone => cases ht
  | moreSome _ ih =>
    obtain ⟨rest, hp, hr⟩ := ih ht
    exact ⟨rest, mayTake_more.mpr hp, hr⟩

/-- A text fits if what is left of the expression behind the first character fits the others. -/
theorem fits_cons_iff {e : Expr} :
    e.Fits before (c :: taken) left ↔
      ∃ rest, MayTake c rest (e.alternatives ⟨before, some c⟩) ∧ rest.Fits (some c) taken left := by
  constructor
  · intro h
    exact exists_mayTake_of_fits h rfl
  · rintro ⟨rest, h, hr⟩
    exact fits_of_mayTake h hr

/-- A group matches what its body does. -/
theorem fits_of_group {start stop : Nat}
    (h : (seq (mark start) (seq body (mark stop))).Fits before taken left) :
    body.Fits before taken left := by
  cases h with
  | seq hstart h =>
    cases hstart
    cases h with
    | seq hbody hstop =>
      cases hstop
      rw [List.append_nil]
      exact hbody

/-! ### Characters of a class -/

section Classes

variable {k : CharClass}

theorem fits_set_iff : (set k).Fits before taken left ↔ ∃ c, taken = [c] ∧ k.contains c = true := by
  constructor
  · intro h
    cases h with
    | set hk => exact ⟨_, rfl, hk⟩
  · rintro ⟨c, rfl, hk⟩
    exact .set hk

theorem eq_of_fits_single (h : (set (.single c)).Fits before taken left) : taken = [c] := by
  obtain ⟨d, rfl, hd⟩ := fits_set_iff.mp h
  rw [CharClass.contains, beq_iff_eq] at hd
  rw [hd]

theorem contains_of_fits_more (h : (more greedy (set k)).Fits before taken left) :
    ∀ c ∈ taken, k.contains c = true := by
  induction taken generalizing before with
  | nil => exact nofun
  | cons c taken ih =>
    obtain ⟨rest, htake, hrest⟩ := fits_cons_iff.mp h
    obtain ⟨r, ⟨a, ha, hover⟩, rfl⟩ := mayTake_plus.mp (mayTake_more.mp htake)
    obtain rfl := List.mem_singleton.mp ha
    simp only [Alternative.over?, Option.ite_none_right_eq_some, Option.some.injEq] at hover
    obtain ⟨hk, rfl⟩ := hover
    exact List.forall_mem_cons.mpr ⟨hk, ih hrest⟩

theorem contains_of_fits_plus (h : (plus greedy (set k)).Fits before taken left) :
    taken ≠ [] ∧ ∀ c ∈ taken, k.contains c = true := by
  refine ⟨?_, contains_of_fits_more (.moreSome h)⟩
  rintro rfl
  have hstop := (mayStop_iff_fits (plus greedy (set k))).mpr h
  rw [alternatives, mayStop_continued, alternatives] at hstop
  simp [MayStop, Alternative.isStop] at hstop

theorem contains_of_fits_star (h : (star greedy (set k)).Fits before taken left) :
    ∀ c ∈ taken, k.contains c = true := by
  cases h with
  | optNone => exact nofun
  | optSome h => exact (contains_of_fits_plus h).2

end Classes

end Expr
end ParseFlow.Regex
