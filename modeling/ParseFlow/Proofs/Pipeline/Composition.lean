import ParseFlow.Proofs.Pipeline.Feeding
import ParseFlow.Proofs.Pipeline.Operations

/-!
# Pipelines as compositions

However a transducer was put together, it is a row of operations: they are described by its stages,
and where their list functions, one after the other, make a list of the input, that is what it puts
out. They always do if no item expands without end. Two transducers have the same row exactly if one
is the other with its parts grouped anew and the identity put in or left out.
-/
namespace ParseFlow.Pipeline

variable {ω α β γ δ : Type}

/-- Operations in a row, each taking what the one before it puts out. -/
inductive Leaves (ω : Type) : Type → Type → Type 1 where
  | nil {α : Type} : Leaves ω α α
  | cons {α β γ : Type} (op : Op ω α β) (rest : Leaves ω β γ) : Leaves ω α γ

namespace Leaves

def append {α β γ : Type} : Leaves ω α β → Leaves ω β γ → Leaves ω α γ
  | nil, others => others
  | cons op rest, others => cons op (rest.append others)

/-- The descriptions of the operations. -/
def stages {α β : Type} : Leaves ω α β → List Stage
  | nil => []
  | cons op rest => op.stage :: rest.stages

/-- The list functions of the operations, applied one after the other. -/
def reference {α β : Type} : Leaves ω α β → List α → Option (List β)
  | nil, items => some items
  | cons op rest, items => (op.reference items).bind rest.reference

/-- The operations composed, from the last one back. -/
def composed {α β : Type} : Leaves ω α β → Transducer ω α β
  | nil => .identity
  | cons op rest => (Transducer.op op).compose rest.composed

theorem append_nil (row : Leaves ω α β) : row.append nil = row := by
  induction row with
  | nil => rfl
  | cons op rest ih => exact congrArg (cons op) ih

theorem append_assoc (row : Leaves ω α β) (others : Leaves ω β γ) (last : Leaves ω γ δ) :
    (row.append others).append last = row.append (others.append last) := by
  induction row with
  | nil => rfl
  | cons op rest ih => exact congrArg (cons op) (ih others)

theorem stages_append (row : Leaves ω α β) (others : Leaves ω β γ) :
    (row.append others).stages = row.stages ++ others.stages := by
  induction row with
  | nil => rfl
  | cons op rest ih => exact congrArg (op.stage :: ·) (ih others)

theorem reference_append (row : Leaves ω α β) (others : Leaves ω β γ) (items : List α) :
    (row.append others).reference items = (row.reference items).bind others.reference := by
  induction row with
  | nil => rfl
  | cons op rest ih =>
    rw [append, reference, reference, Option.bind_assoc]
    exact congrArg (op.reference items).bind (funext (ih others))

end Leaves

namespace Transducer

/-- The operations of the transducer, in the order in which items pass through them. -/
def leaves {α β : Type} : Transducer ω α β → Leaves ω α β
  | identity => .nil
  | op operation => .cons operation .nil
  | compose first second => first.leaves.append second.leaves

theorem leaves_stages (t : Transducer ω α β) : t.leaves.stages = t.stages := by
  induction t with
  | identity => rfl
  | op operation => rfl
  | compose first second hf hg => rw [leaves, Leaves.stages_append, hf, hg, stages]

/-- A transducer puts out what its row of operations stands for. -/
theorem collect_of_reference (t : Transducer ω α β) {items : List α} {ys : List β}
    (h : t.leaves.reference items = some ys) : t.collect items = some ys := by
  induction t with
  | identity => exact (realises_pass items).trans h
  | op operation =>
    have hop : operation.reference items = some ys := by
      rw [leaves, Leaves.reference] at h
      exact (Option.bind_fun_some _).symm.trans h
    exact (operation.collect_eq items).trans hop
  | compose first second hf hg =>
    rw [leaves, Leaves.reference_append] at h
    obtain ⟨middle, hmiddle, hys⟩ := Option.bind_eq_some_iff.mp h
    exact (collect_compose (hf hmiddle) second).trans (hg hys)

/-- No operation of the transducer expands an item without end. -/
def FiniteBursts {α β : Type} : Transducer ω α β → Prop
  | identity => True
  | op operation => operation.FiniteBursts
  | compose first second => first.FiniteBursts ∧ second.FiniteBursts

theorem FiniteBursts.exists_reference {t : Transducer ω α β} (h : t.FiniteBursts)
    (items : List α) : ∃ ys, t.leaves.reference items = some ys := by
  induction t with
  | identity => exact ⟨items, rfl⟩
  | op operation =>
    obtain ⟨ys, hys⟩ := Op.FiniteBursts.exists_reference h items
    exact ⟨ys, (Option.bind_fun_some _).trans hys⟩
  | compose first second hf hg =>
    obtain ⟨middle, hmiddle⟩ := hf h.1 items
    obtain ⟨ys, hys⟩ := hg h.2 middle
    refine ⟨ys, ?_⟩
    rw [leaves, Leaves.reference_append, hmiddle]
    exact hys

theorem FiniteBursts.exists_collect {t : Transducer ω α β} (h : t.FiniteBursts)
    (items : List α) : ∃ ys, t.leaves.reference items = some ys ∧ t.collect items = some ys := by
  obtain ⟨ys, hys⟩ := h.exists_reference items
  exact ⟨ys, hys, t.collect_of_reference hys⟩

theorem FiniteBursts.exists_applyValue {t : Transducer ω α β} (h : t.FiniteBursts) (v : α) :
    ∃ result, t.applyValue v = some result := by
  induction t with
  | identity => exact ⟨.ok v, rfl⟩
  | op operation =>
    obtain ⟨ys, -, hys⟩ := FiniteBursts.exists_collect (t := .op operation) h [v]
    exact ⟨_, congrArg (Option.map _) hys⟩
  | compose first second hf hg =>
    obtain ⟨result, hresult⟩ := hf h.1 v
    rw [applyValue, hresult]
    cases result with
    | error stage => exact ⟨.error stage, rfl⟩
    | ok middle => exact hg h.2 middle

/-! ## Grouping -/

/-- One transducer is the other with its parts grouped anew, and the identity put in or left out. -/
inductive Regrouped : {α β : Type} → Transducer ω α β → Transducer ω α β → Prop
  | refl {α β : Type} (t : Transducer ω α β) : Regrouped t t
  | symm {α β : Type} {t u : Transducer ω α β} : Regrouped t u → Regrouped u t
  | trans {α β : Type} {t u v : Transducer ω α β} : Regrouped t u → Regrouped u v → Regrouped t v
  | compose {α β γ : Type} {t t' : Transducer ω α β} {u u' : Transducer ω β γ} :
      Regrouped t t' → Regrouped u u' → Regrouped (t.compose u) (t'.compose u')
  | assoc {α β γ δ : Type} (t : Transducer ω α β) (u : Transducer ω β γ) (v : Transducer ω γ δ) :
      Regrouped ((t.compose u).compose v) (t.compose (u.compose v))
  | identity_compose {α β : Type} (t : Transducer ω α β) : Regrouped (identity.compose t) t
  | compose_identity {α β : Type} (t : Transducer ω α β) : Regrouped (t.compose identity) t

theorem Regrouped.leaves_eq {t u : Transducer ω α β} (h : Regrouped t u) : t.leaves = u.leaves := by
  induction h with
  | refl t => rfl
  | symm _ ih => exact ih.symm
  | trans _ _ ih ih' => exact ih.trans ih'
  | compose _ _ ih ih' => rw [leaves, ih, ih', leaves]
  | assoc t u v => exact Leaves.append_assoc t.leaves u.leaves v.leaves
  | identity_compose t => rfl
  | compose_identity t => exact Leaves.append_nil t.leaves

theorem regrouped_append (row : Leaves ω α β) (others : Leaves ω β γ) :
    Regrouped (row.composed.compose others.composed) (row.append others).composed := by
  induction row with
  | nil => exact .identity_compose _
  | cons op rest ih => exact (Regrouped.assoc _ _ _).trans (.compose (.refl _) (ih others))

theorem regrouped_composed (t : Transducer ω α β) : Regrouped t t.leaves.composed := by
  induction t with
  | identity => exact .refl _
  | op operation => exact (Regrouped.compose_identity _).symm
  | compose first second hf hg => exact (Regrouped.compose hf hg).trans (regrouped_append _ _)

/-- Transducers of the same operations differ only in their grouping. -/
theorem regrouped_iff {t u : Transducer ω α β} : Regrouped t u ↔ t.leaves = u.leaves := by
  constructor
  · exact Regrouped.leaves_eq
  · intro h
    have hu := regrouped_composed u
    rw [← h] at hu
    exact (regrouped_composed t).trans hu.symm

end Transducer
end ParseFlow.Pipeline
