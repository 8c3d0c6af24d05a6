import ParseFlow.Proofs.Pipeline.Composition

/-!
# The course of a run

What each item gives rise to, said without machines: an operation adds to its outputs what its list
function makes of one more item, and stages in a row pass the effects of an item on one by one, each
as deep as it goes before the next. From this follows what a run tells, item by item, up to the end.
-/
namespace ParseFlow.Pipeline

variable {ω α β γ : Type}

/-- Something that an item gives rise to: a note is left or an item put out. -/
inductive Effect (ω β : Type) where
  | note (w : ω)
  | output (y : β)
  deriving DecidableEq

namespace Effect

def output? : Effect ω β → Option β
  | note _ => none
  | output y => some y

def event : Effect ω β → Event ω β
  | note w => .note w
  | output y => .answer (some y)

def happening : Effect ω β → Happening ω α β
  | note w => .note w
  | output y => .output y

/-- The notes, and then the outputs. -/
def of (notes : List ω) (outs : List β) : List (Effect ω β) :=
  notes.map note ++ outs.map output

end Effect

/-- The items that are put out. -/
def put (effects : List (Effect ω β)) : List β := effects.filterMap Effect.output?

/-- How a run goes, by the items read before: all that has been put out, whether the end has been
reported, and what the next item gives rise to. The opening comes before the first item. -/
structure Course (ω α β : Type) where
  made : List α → List β
  isOver : List α → Bool
  opening : List (Effect ω β)
  gives : List α → α → List (Effect ω β)

namespace Course

/-- The course of a list function that is followed up to an end: an item is noted, and then all is
put out that the function has made of it. -/
def of (made : List α → List β) (isOver : List α → Bool) (noted : α → List ω) : Course ω α β where
  made := made
  isOver := isOver
  opening := Effect.of [] (made [])
  gives before x := Effect.of (noted x) ((made (before ++ [x])).drop (made before).length)

/-- What becomes of effects that are passed on, the items among them behind those `before`. Nothing
goes beyond the end. -/
def passed (second : Course ω β γ) : (before : List β) → List (Effect ω β) → List (Effect ω γ)
  | _, [] => []
  | before, .note w :: effects =>
    if second.isOver before then [] else .note w :: second.passed before effects
  | before, .output y :: effects =>
    if second.isOver before then []
    else second.gives before y ++ second.passed (before ++ [y]) effects

section Passed

variable {second : Course ω β γ} {before : List β}

theorem passed_over (h : second.isOver before = true) (effects : List (Effect ω β)) :
    second.passed before effects = [] := by
  cases effects with
  | nil => rfl
  | cons e effects => cases e <;> exact if_pos h

theorem passed_note (h : second.isOver before = false) (w : ω) (effects : List (Effect ω β)) :
    second.passed before (.note w :: effects) = .note w :: second.passed before effects := by
  rw [passed, h]
  rfl

theorem passed_output (h : second.isOver before = false) (y : β) (effects : List (Effect ω β)) :
    second.passed before (.output y :: effects) =
      second.gives before y ++ second.passed (before ++ [y]) effects := by
  rw [passed, h]
  rfl

end Passed

/-- The second course over all that the first puts out. -/
def andThen (first : Course ω α β) (second : Course ω β γ) : Course ω α γ where
  made items := second.made (first.made items)
  isOver before := first.isOver before || second.isOver (first.made before)
  opening := second.opening ++ second.passed [] first.opening
  gives before x := second.passed (first.made before) (first.gives before x)

/-! ## What a run tells -/

variable (c : Course ω α β)

/-- What is told from the items read before on, with `last` where no item is left. -/
def toldFrom (last : List (Happening ω α β)) : (before : List α) → List α → List (Happening ω α β)
  | before, [] => if c.isOver before then [.ended] else last
  | before, x :: items =>
    if c.isOver before then [.ended]
    else .read x :: ((c.gives before x).map Effect.happening ++ toldFrom last (before ++ [x]) items)

section ToldFrom

variable {c : Course ω α β} {last : List (Happening ω α β)} {before : List α}

theorem toldFrom_over (h : c.isOver before = true) (items : List α) :
    c.toldFrom last before items = [.ended] := by
  cases items <;> exact if_pos h

theorem toldFrom_nil (h : c.isOver before = false) : c.toldFrom last before [] = last := by
  rw [toldFrom, h]
  rfl

theorem toldFrom_cons (h : c.isOver before = false) (x : α) (items : List α) :
    c.toldFrom last before (x :: items) = .read x ::
      ((c.gives before x).map Effect.happening ++ c.toldFrom last (before ++ [x]) items) := by
  rw [toldFrom, h]
  rfl

end ToldFrom

/-- What is told over a beginning of the input, with `last` behind it. -/
def told (last : List (Happening ω α β)) (items : List α) : List (Happening ω α β) :=
  .applied :: (c.opening.map Effect.happening ++ c.toldFrom last [] items)

/-- What is told over just these items. -/
def log (items : List α) : List (Happening ω α β) := c.told [.ended] items

/-- What is told of these items when there may be others. -/
def logSoFar (items : List α) : List (Happening ω α β) := c.told [] items

end Course

/-! ## Courses of operations and transducers -/

namespace Op

/-- Whether the operation reports the end, whatever comes behind these items. -/
def isOver : Op ω α β → List α → Bool
  | take count, before => count ≤ before.length
  | takeWhile _ keep, before => before.any fun x => !keep x
  | zip partner _, before =>
    (partner.members (List.range before.length)).length < before.length
  | _, _ => false

/-- The notes that an item leaves. -/
def noted : Op ω α β → α → List ω
  | inspect _ observe, x => [observe x]
  | _, _ => []

/-- What the operation makes of a list, if its list function does make one of it. -/
def made (op : Op ω α β) (items : List α) : List β := (op.reference items).getD []

def course (op : Op ω α β) : Course ω α β := .of op.made op.isOver op.noted

theorem FiniteBursts.reference_eq {op : Op ω α β} (h : op.FiniteBursts) (items : List α) :
    op.reference items = some (op.made items) := by
  obtain ⟨ys, hys⟩ := h.exists_reference items
  rw [made, hys]
  rfl

end Op

/-- The course of the stages in a row. -/
def Transducer.course {α β : Type} : Transducer ω α β → Course ω α β
  | identity => .of id (fun _ => false) fun _ => []
  | op operation => operation.course
  | compose first second => first.course.andThen second.course

/-- The course tells of all that is put out, if no item expands without end. -/
theorem Transducer.FiniteBursts.collect_eq {t : Transducer ω α β} (h : t.FiniteBursts)
    (items : List α) : t.collect items = some (t.course.made items) := by
  refine t.collect_of_reference ?_
  induction t with
  | identity => rfl
  | op operation =>
    exact (Option.bind_fun_some _).trans (Op.FiniteBursts.reference_eq h items)
  | compose first second hf hg =>
    rw [leaves, Leaves.reference_append, hf h.1]
    exact hg h.2 _

/-! ## Sound courses -/

theorem put_append (effects others : List (Effect ω β)) :
    put (effects ++ others) = put effects ++ put others := List.filterMap_append

theorem put_of (notes : List ω) (outs : List β) : put (Effect.of notes outs) = outs := by
  have hn : put (notes.map (Effect.note : ω → Effect ω β)) = [] := by
    rw [put, List.filterMap_map]
    exact List.filterMap_none notes
  have ho : put (outs.map (Effect.output : β → Effect ω β)) = outs := by
    rw [put, List.filterMap_map]
    exact List.filterMap_some
  rw [Effect.of, put_append, hn, ho, List.nil_append]

namespace Course

/-- Items are put out as they are read, and none after the end. -/
structure Sound (c : Course ω α β) : Prop where
  made_nil : c.made [] = put c.opening
  made_concat : ∀ before x, c.isOver before = false →
    c.made (before ++ [x]) = c.made before ++ put (c.gives before x)
  made_over : ∀ before x, c.isOver before = true → c.made (before ++ [x]) = c.made before
  over_concat : ∀ before x, c.isOver before = true → c.isOver (before ++ [x]) = true

namespace Sound

variable {c : Course ω α β} {second : Course ω β γ} {before : List α}

theorem over_append (h : c.Sound) (hb : c.isOver before = true) (items : List α) :
    c.isOver (before ++ items) = true := by
  induction items generalizing before with
  | nil => rwa [List.append_nil]
  | cons x items ih =>
    rw [List.append_cons]
    exact ih (h.over_concat before x hb)

theorem made_append_over (h : c.Sound) (hb : c.isOver before = true) (items : List α) :
    c.made (before ++ items) = c.made before := by
  induction items generalizing before with
  | nil => rw [List.append_nil]
  | cons x items ih =>
    rw [List.append_cons, ih (h.over_concat before x hb), h.made_over before x hb]

/-- More items never take back what has been put out. -/
theorem made_isPrefix (h : c.Sound) (before items : List α) :
    c.made before <+: c.made (before ++ items) := by
  induction items generalizing before with
  | nil => exact ⟨[], by rw [List.append_nil, List.append_nil]⟩
  | cons x items ih =>
    rw [List.append_cons]
    refine List.IsPrefix.trans ?_ (ih (before ++ [x]))
    cases hb : c.isOver before with
    | true => exact ⟨[], by rw [List.append_nil, h.made_over before x hb]⟩
    | false =>
      rw [h.made_concat before x hb]
      exact List.prefix_append _ _

/-- Effects passed on put out what the second course makes of the items among them. -/
theorem made_put (h : second.Sound) (before : List β) (effects : List (Effect ω β)) :
    second.made (before ++ put effects) =
      second.made before ++ put (second.passed before effects) := by
  induction effects generalizing before with
  | nil =>
    show second.made (before ++ []) = second.made before ++ []
    rw [List.append_nil, List.append_nil]
  | cons e effects ih =>
    cases hb : second.isOver before with
    | true =>
      rw [passed_over hb, h.made_append_over hb]
      exact (List.append_nil _).symm
    | false =>
      cases e with
      | note w =>
        rw [passed_note hb]
        exact ih before
      | output y =>
        have hy : before ++ put (.output y :: effects) = before ++ [y] ++ put effects :=
          List.append_cons before y (put effects)
        rw [passed_output hb, hy, ih, h.made_concat before y hb, put_append, List.append_assoc]

theorem andThen {first : Course ω α β} (hf : first.Sound) (hs : second.Sound) :
    (first.andThen second).Sound := by
  constructor
  · have h := hs.made_put [] first.opening
    rw [List.nil_append, hs.made_nil, ← hf.made_nil, ← put_append] at h
    exact h
  · intro before x hb
    obtain ⟨hbf, -⟩ := Bool.or_eq_false_iff.mp hb
    have h := hs.made_put (first.made before) (first.gives before x)
    rw [← hf.made_concat before x hbf] at h
    exact h
  · intro before x hb
    show second.made (first.made (before ++ [x])) = second.made (first.made before)
    rcases Bool.or_eq_true_iff.mp hb with hb | hb
    · rw [hf.made_over before x hb]
    · obtain ⟨later, hl⟩ := hf.made_isPrefix before [x]
      rw [← hl, hs.made_append_over hb]
  · intro before x hb
    refine Bool.or_eq_true_iff.mpr ?_
    rcases Bool.or_eq_true_iff.mp hb with hb | hb
    · exact .inl (hf.over_concat before x hb)
    · obtain ⟨later, hl⟩ := hf.made_isPrefix before [x]
      rw [← hl]
      exact .inr (hs.over_append hb later)

end Sound
end Course
end ParseFlow.Pipeline
