import ParseFlow.Proofs.Parser.Value
import ParseFlow.Proofs.Pipeline.Grouping

/-!
# Values piped through transducers

A parser that pipes its value collects all that a transducer makes of the items before it hands on
the list. Piping the list through a second transducer refines piping the items through the
composition, in which the second takes them from the first one by one: where the parse in two pipes
returns, the other does the same. Only where the first pipe has no end of its own can the composition
return without it, and then the second transducer has cut it short. Where no item expands without end
both are one parser, so that a pipeline may be put on in parts, down to single operations.
-/
namespace ParseFlow

open Pipeline

variable {ω α β γ δ ε : Type}

namespace Outcome

variable {outcome : Outcome α β} {f g : β → View α → Outcome α γ}

/-- A parse that goes on from a success returns only if it has returned until then. -/
theorem returns_of_flatMap (h : (outcome.flatMap f).returns) : outcome.returns := by
  cases outcome with
  | success value rest => rfl
  | failure reason rest => rfl
  | endless rest => cases h

/-- What follows a value matters for that value only. -/
theorem flatMap_congr
    (h : ∀ value rest, outcome = success value rest → f value rest = g value rest) :
    outcome.flatMap f = outcome.flatMap g := by
  cases outcome with
  | success value rest => exact h value rest rfl
  | failure reason rest => rfl
  | endless rest => rfl

theorem exists_of_returns_ofValue? {value? : Option β} {rest : View α}
    (h : (ofValue? value? rest).returns) : ∃ value, value? = some value := by
  cases value? with
  | some value => exact ⟨value, rfl⟩
  | none => cases h

end Outcome

namespace Parser

/-- Pipes the value through the operations of a row, collecting a list behind each. -/
def pipeEach {γ δ : Type} : Leaves ω γ δ → Parser α (List γ) → Parser α (List δ)
  | .nil, p => p
  | .cons op rest, p => pipeEach rest (p.pipe (.op op))

/-- Wherever the first parser returns, the second does just the same: it makes the same of the view,
and leaves the same trace. -/
structure Refines (p q : Parser α β) : Prop where
  description : p.description = q.description
  parse_eq : ∀ v, (p.parse v).value.returns → p.parse v = q.parse v

section Refines

variable {p q r : Parser α β}

theorem Refines.refl (p : Parser α β) : Refines p p := ⟨rfl, fun _ _ => rfl⟩

theorem Refines.trans (h : Refines p q) (h' : Refines q r) : Refines p r := by
  refine ⟨h.description.trans h'.description, fun v hv => ?_⟩
  have heq := h.parse_eq v hv
  rw [heq] at hv ⊢
  exact h'.parse_eq v hv

end Refines

section Items

variable (p : Parser α β) (items : β → Items γ)

theorem description_pipeItems_pipe (a : Transducer ω γ δ) (b : Transducer ω δ ε) :
    ((p.pipeItems items a).pipe b).description = (p.pipeItems items (a.compose b)).description :=
  p.description.staged_staged a.stages b.stages

/-- The two ways of piping agree on every value of which the first transducer makes a list. -/
theorem matcher_pipeItems_pipe (a : Transducer ω γ δ) (b : Transducer ω δ ε) {v : View α}
    (h : ∀ value rest, (p.matcher v).value = .success value rest →
      ∃ ys, a.collect (items value) = some ys) :
    ((p.pipeItems items a).pipe b).matcher v = (p.pipeItems items (a.compose b)).matcher v := by
  have hvalue : (((p.pipeItems items a).pipe b).matcher v).value =
      ((p.pipeItems items (a.compose b)).matcher v).value := by
    show ((p.matcher v).value.flatMap _).flatMap _ = (p.matcher v).value.flatMap _
    rw [Outcome.flatMap_assoc]
    refine Outcome.flatMap_congr fun value rest hs => ?_
    obtain ⟨ys, hys⟩ := h value rest hs
    rw [hys, Transducer.collect_compose hys b]
    rfl
  have hevents : (((p.pipeItems items a).pipe b).matcher v).events =
      ((p.pipeItems items (a.compose b)).matcher v).events := List.append_nil _
  exact congrArg₂ Traced.mk hevents hvalue

/-- Where the first pipe returns the two do just the same. -/
theorem parse_pipeItems_pipe (a : Transducer ω γ δ) (b : Transducer ω δ ε) {v : View α}
    (h : ((p.pipeItems items a).parse v).value.returns) :
    ((p.pipeItems items a).pipe b).parse v = (p.pipeItems items (a.compose b)).parse v := by
  have hm := p.matcher_pipeItems_pipe items a b (v := v) fun value rest hs => by
    have hfirst : ((p.matcher v).value.flatMap _).returns := h
    rw [hs] at hfirst
    exact Outcome.exists_of_returns_ofValue? hfirst
  rw [parse, parse, hm, p.description_pipeItems_pipe items a b]

theorem refines_pipeItems_pipe (a : Transducer ω γ δ) (b : Transducer ω δ ε) :
    Refines ((p.pipeItems items a).pipe b) (p.pipeItems items (a.compose b)) :=
  ⟨p.description_pipeItems_pipe items a b,
    fun _ hv => p.parse_pipeItems_pipe items a b (Outcome.returns_of_flatMap hv)⟩

theorem pipeItems_regrouped {t u : Transducer ω γ δ} (h : Transducer.Regrouped t u) :
    p.pipeItems items t = p.pipeItems items u := by
  have hm : ∀ v, (p.pipeItems items t).matcher v = (p.pipeItems items u).matcher v := by
    intro v
    simp only [pipeItems, h.collect_eq]
  exact congrArg₂ Parser.mk (congrArg p.description.staged h.stages_eq) (funext hm)

end Items

theorem pipe_identity (p : Parser α (List γ)) :
    p.pipe (.identity : Transducer ω γ γ) = p := by
  have hcollect : ∀ items, (Transducer.identity : Transducer ω γ γ).collect (.listed items) =
      some items := fun items => Transducer.collect_of_reference .identity rfl
  have hm : ∀ v, (p.pipe (.identity : Transducer ω γ γ)).matcher v = p.matcher v := by
    intro v
    have hvalue : ((p.matcher v).value.flatMap fun items =>
        .ofValue? ((Transducer.identity : Transducer ω γ γ).collect (.listed items))) =
          (p.matcher v).value := by
      simp only [hcollect]
      exact Outcome.flatMap_success_self _
    exact congrArg₂ Traced.mk (List.append_nil _) hvalue
  exact congrArg₂ Parser.mk p.description.staged_nil (funext hm)

/-- A row of operations may be put on one by one, as far as the parse returns. -/
theorem refines_pipeEach (row : Leaves ω γ δ) (p : Parser α (List γ)) :
    Refines (pipeEach row p) (p.pipe row.composed) := by
  induction row with
  | nil =>
    rw [Leaves.composed, pipe_identity]
    exact .refl p
  | cons op rest ih => exact (ih _).trans (p.refines_pipeItems_pipe _ (.op op) rest.composed)

/-- A list that has been parsed becomes what the list functions of all stages make of it, one after
the other. -/
theorem value_pipeItems_of_reference (p : Parser α β) {items : β → Items γ} {t : Transducer ω γ δ}
    {v rest : View α} {b : β} {xs : List γ} {ys : List δ} (hb : (p.parse v).value = .success b rest)
    (hxs : items b = .listed xs) (hys : t.leaves.reference xs = some ys) :
    ((p.pipeItems items t).parse v).value = .success ys rest := by
  rw [value_parse] at hb
  rw [value_parse, value_pipeItems, hb, Outcome.flatMap, hxs, t.collect_of_reference hys]
  rfl

/-- Piping a value through one transducer and the list that comes out through another refines piping
it through their composition: the descriptions are equal, and on every view on which the first
returns the two make the same of it and leave the same trace. So a pipeline may be split over any
number of pipes, down to one for each operation, and it may be grouped as one likes without any
difference. The parse in parts goes on for ever where the first pipe does. It does not if the items
end and no item expands without end, and then both are one parser; the value becomes what the list
functions of the stages make of its items, and a failure stays as it is. -/
theorem pipe_fuses (p : Parser α β) (items : β → Items γ) :
    (∀ {δ ε : Type} (a : Transducer ω γ δ) (b : Transducer ω δ ε),
      ((p.pipeItems items a).pipe b).description = (p.pipeItems items (a.compose b)).description ∧
      ∀ v, (((p.pipeItems items a).parse v).value.returns →
          ((p.pipeItems items a).pipe b).parse v = (p.pipeItems items (a.compose b)).parse v) ∧
        (((p.pipeItems items a).parse v).value.returns = false →
          (((p.pipeItems items a).pipe b).parse v).value.returns = false)) ∧
    (∀ {δ ε : Type} (a : Transducer ω γ δ) (b : Transducer ω δ ε),
      Refines (pipeEach b.leaves (p.pipeItems items a)) (p.pipeItems items (a.compose b))) ∧
    (∀ {δ : Type} (t u : Transducer ω γ δ), t.leaves = u.leaves →
      p.pipeItems items t = p.pipeItems items u) ∧
    ∀ {δ : Type} (a : Transducer ω γ δ), a.FiniteBursts → (∀ b, ∃ xs, items b = .listed xs) →
      (∀ {ε : Type} (b : Transducer ω δ ε),
        (p.pipeItems items a).pipe b = p.pipeItems items (a.compose b)) ∧
      ∀ v,
        (∀ b rest, (p.parse v).value = .success b rest → ∃ xs ys, items b = .listed xs ∧
          a.leaves.reference xs = some ys ∧
          ((p.pipeItems items a).parse v).value = .success ys rest) ∧
        ∀ reason rest, (p.parse v).value = .failure reason rest →
          ((p.pipeItems items a).parse v).value = .failure reason rest := by
  refine ⟨fun a b => ⟨p.description_pipeItems_pipe items a b, fun v =>
      ⟨p.parse_pipeItems_pipe items a b, fun hv => ?_⟩⟩,
    fun a b => ?_, fun t u h => ?_, fun a ha hitems => ⟨fun b => ?_, fun v => ?_⟩⟩
  · refine Bool.eq_false_iff.mpr fun hboth => ?_
    exact Bool.false_ne_true (hv.symm.trans (Outcome.returns_of_flatMap hboth))
  · have hrow := refines_pipeEach b.leaves (p.pipeItems items a)
    refine (hrow.trans (p.refines_pipeItems_pipe items a _)).trans ?_
    rw [p.pipeItems_regrouped items (.compose (.refl a) (Transducer.regrouped_composed b).symm)]
    exact .refl _
  · exact p.pipeItems_regrouped items (Transducer.regrouped_iff.mpr h)
  · have hm : ∀ v, ((p.pipeItems items a).pipe b).matcher v =
        (p.pipeItems items (a.compose b)).matcher v := fun v => by
      refine p.matcher_pipeItems_pipe items a b fun value rest _ => ?_
      obtain ⟨xs, hxs⟩ := hitems value
      obtain ⟨ys, -, hys⟩ := ha.exists_collect xs
      exact ⟨ys, hxs ▸ hys⟩
    exact congrArg₂ Parser.mk (p.description_pipeItems_pipe items a b) (funext hm)
  · constructor
    · intro b rest hb
      obtain ⟨xs, hxs⟩ := hitems b
      obtain ⟨ys, hys⟩ := ha.exists_reference xs
      exact ⟨xs, ys, hxs, hys, p.value_pipeItems_of_reference hb hxs hys⟩
    · intro reason rest hf
      rw [value_parse] at hf
      rw [value_parse, value_pipeItems, hf]
      rfl

/-- A pipe that sees each character once, and one behind it that is not told of the first. -/
theorem pipe_fuses_distinct :
    let v : View Char := ⟨⟨0, ['é', 'z', 'x', 'z', 'y', 'x']⟩, 2, 5⟩
    let p : Parser Char (List Char) := (any : Parser Char Char).many
    let distinct : Transducer Unit Char Char := .unique
    let others : Transducer Unit Char Char := .drop 1
    (distinct.compose others).FiniteBursts ∧
      (p.pipe distinct).pipe others = p.pipe (distinct.compose others) ∧
      ((p.pipe (distinct.compose others)).parse v).value.value? = some ['x', 'y'] := by
  intro v p distinct others
  obtain ⟨-, -, -, hfinite⟩ := p.pipe_fuses (ω := Unit) IntoItems.items
  have hitems : ∀ b : List Char, ∃ xs, IntoItems.items b = Items.listed xs := fun b => ⟨b, rfl⟩
  have hboth : (distinct.compose others).FiniteBursts := ⟨trivial, trivial⟩
  have hb : (p.parse v).value.value? = some ['z', 'x', 'z', 'y', 'x'] := by decide
  obtain ⟨xs, ys, hxs, hys, hvalue⟩ :=
    ((hfinite _ hboth hitems).2 v).1 _ _ (Outcome.eq_success hb)
  obtain rfl : ['z', 'x', 'z', 'y', 'x'] = xs := Items.listed.inj hxs
  obtain rfl : ['x', 'y'] = ys := Option.some.inj hys
  exact ⟨hboth, (hfinite distinct trivial hitems).1 others, congrArg Outcome.value? hvalue⟩

/-- The second transducer takes three of the zeros that the first goes through for ever. In one pipe
it stops the first, in a pipe of its own it never begins. -/
theorem pipe_fuses_not_with_endless_pipe :
    let v : View Char := .ofSource ⟨0, ['x']⟩
    let p : Parser Char (List Char) := (any : Parser Char Char).many
    let zeros : Transducer Unit Char Nat := .flatMap "zeros" fun _ => Items.endless fun _ => 0
    let three : Transducer Unit Nat Nat := .take 3
    ((p.pipe (zeros.compose three)).parse v).value.value? = some [0, 0, 0] ∧
      (((p.pipe zeros).pipe three).parse v).value.returns = false := by
  intro v p zeros three
  have hzeros : zeros.collect ['x'] = none := Op.collect_eq (.flatMap ⟨"zeros"⟩ _) ['x']
  have hthree : (zeros.compose three).collect ['x'] = some [0, 0, 0] :=
    Machine.collectFrom_eq_some_iff.mpr
      (.later (.later (.later (.later (.ends (reportsEnd_iff.mp rfl))))))
  have hb : (p.parse v).value.value? = some ['x'] := by decide
  have hp : (p.matcher v).value = .success ['x'] (p.parse v).value.rest := Outcome.eq_success hb
  have hfirst : ((p.pipe zeros).matcher v).value = .endless (p.parse v).value.rest := by
    rw [pipe, value_pipeItems, hp, Outcome.flatMap]
    exact congrArg (Outcome.ofValue? · _) hzeros
  constructor
  · rw [value_parse, pipe, value_pipeItems, hp, Outcome.flatMap]
    exact congrArg (fun ys => (Outcome.ofValue? ys (p.parse v).value.rest).value?) hthree
  · rw [value_parse, pipe, value_pipeItems, hfirst]
    rfl

end Parser
end ParseFlow
