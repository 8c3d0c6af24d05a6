import ParseFlow.Proofs.Parser.Value
import ParseFlow.Proofs.Pipeline.SingleValue

/-!
# Values threaded through transducers

A parser that threads its value goes on from an outcome in a way that depends only on the transducer
and the view: a value that comes through keeps the rest, one that is rejected fails at the view, and
a failure stays as it is. A value of which a stage makes items without end is never heard of again.
Going on with one transducer after another is going on with their
composition, and this carries over to the parsers, their descriptions and their traces.
-/
namespace ParseFlow.Parser

open Pipeline

variable {ω α β γ δ : Type}

/-! ## Going on from an outcome -/

/-- How a parse that began at `v` goes on when the value is threaded through `t`. -/
def threadOn (t : Transducer ω β γ) (v : View α) : Outcome α β → Traced (Outcome α γ)
  | .success value rest =>
    match t.applyValue value with
    | some (.ok result) => pure (.success result rest)
    | some (.error stage) => do
      Traced.emit (.rejectedBy v.offset stage)
      return .failure stage.display v
    | none => pure (.endless rest)
  | .failure reason rest => pure (.failure reason rest)
  | .endless rest => pure (.endless rest)

theorem matcher_thread (p : Parser α β) (t : Transducer ω β γ) (v : View α) :
    (p.thread t).matcher v = p.matcher v >>= threadOn t v := by
  apply congrArg (p.matcher v >>= ·)
  funext outcome
  cases outcome <;> rfl

/-- A value that does not come through the first transducer does not reach the second. -/
theorem threadOn_compose (a : Transducer ω β γ) (b : Transducer ω γ δ) (v : View α)
    (outcome : Outcome α β) :
    threadOn a v outcome >>= threadOn b v = threadOn (a.compose b) v outcome := by
  cases outcome with
  | failure reason rest => rfl
  | endless rest => rfl
  | success value rest =>
    cases ha : a.applyValue value with
    | none =>
      have hb : (a.compose b).applyValue value = none := by
        rw [Transducer.applyValue, ha]
        rfl
      simp only [threadOn, ha, hb, pure_bind]
    | some result =>
      cases result with
      | ok middle =>
        have hb : (a.compose b).applyValue value = b.applyValue middle := by
          rw [Transducer.applyValue, ha]
          rfl
        simp only [threadOn, ha, hb, pure_bind]
      | error stage =>
        have hb : (a.compose b).applyValue value = some (.error stage) := by
          rw [Transducer.applyValue, ha]
          rfl
        simp only [threadOn, ha, hb, bind_assoc, pure_bind]

theorem threadOn_identity (v : View α) :
    threadOn (.identity : Transducer ω β β) v = pure := by
  funext outcome
  cases outcome <;> rfl

theorem threadOn_map (label : String) (f : β → γ) (v : View α) :
    threadOn (.map label f : Transducer ω β γ) v = fun outcome => pure (outcome.map f) := by
  funext outcome
  cases outcome with
  | success value rest =>
    have hmap : (.map label f : Transducer ω β γ).applyValue value = some (.ok (f value)) :=
      Transducer.applyOp_of_getLast rfl rfl
    simp only [threadOn, hmap, Outcome.map]
  | failure reason rest => rfl
  | endless rest => rfl

/-! ## Parsers -/

section Stages

variable (p : Parser α β)

theorem thread_thread (a : Transducer ω β γ) (b : Transducer ω γ δ) :
    (p.thread a).thread b = p.thread (a.compose b) := by
  have hd : ((p.thread a).thread b).description = (p.thread (a.compose b)).description :=
    p.description.staged_staged a.stages b.stages
  have hm : ∀ v, ((p.thread a).thread b).matcher v = (p.thread (a.compose b)).matcher v := by
    intro v
    simp only [matcher_thread, bind_assoc, threadOn_compose]
  exact congrArg₂ Parser.mk hd (funext hm)

theorem thread_identity : p.thread (.identity : Transducer ω β β) = p := by
  have hm : ∀ v, (p.thread (.identity : Transducer ω β β)).matcher v = p.matcher v := by
    intro v
    rw [matcher_thread, threadOn_identity, bind_pure]
  exact congrArg₂ Parser.mk p.description.staged_nil (funext hm)

theorem thread_map (label : String) (f : β → γ) :
    p.thread (.map label f : Transducer ω β γ) = p.map label f := by
  have hm : ∀ v, (p.thread (.map label f : Transducer ω β γ)).matcher v =
      (p.map label f).matcher v := by
    intro v
    rw [matcher_thread, threadOn_map]
    rfl
  exact congrArg₂ Parser.mk rfl (funext hm)

/-- The two differ in the event that a rejection leaves in the trace, and in nothing else. -/
theorem value_thread_filter (label : String) (keep : β → Bool) (v : View α) :
    ((p.thread (.filter label keep : Transducer ω β β)).parse v).value =
      ((p.filter label keep).parse v).value := by
  rw [value_parse, value_parse, value_thread, value_filter]
  cases (p.matcher v).value with
  | failure reason rest => rfl
  | endless rest => rfl
  | success b rest =>
    simp only [Outcome.flatMap, Transducer.applyValue_filter]
    by_cases hk : keep b = true
    · simp only [hk, ↓reduceIte]
    · simp only [hk, Bool.false_eq_true, ↓reduceIte]

end Stages

/-- What becomes of an outcome of a parse that began at `v`. -/
inductive Threaded (t : Transducer ω β γ) (v : View α) : Outcome α β → Outcome α γ → Prop
  | passed {b : β} {c : γ} {rest : View α} (h : t.leaves.Hands b c) :
      Threaded t v (.success b rest) (.success c rest)
  | rejected {b : β} {rest : View α} {i : Nat} {stage : Stage} (h : t.leaves.Rejects b i)
      (hstage : t.stages[i]? = some stage) :
      Threaded t v (.success b rest) (.failure stage.display v)
  | stalled {b : β} {rest : View α} (h : t.leaves.Stalls b) :
      Threaded t v (.success b rest) (.endless rest)
  | failed {reason : String} {rest : View α} :
      Threaded t v (.failure reason rest) (.failure reason rest)
  | endless {rest : View α} : Threaded t v (.endless rest) (.endless rest)

theorem threaded_parse (p : Parser α β) (t : Transducer ω β γ) (v : View α) :
    Threaded t v (p.parse v).value ((p.thread t).parse v).value := by
  rw [value_parse, value_parse, value_thread]
  cases (p.matcher v).value with
  | failure reason rest => exact .failed
  | endless rest => exact .endless
  | success b rest =>
    simp only [Outcome.flatMap]
    cases hb : t.applyValue b with
    | none => exact .stalled ((t.applyValue_eq_none_iff b).mp hb)
    | some result =>
      cases result with
      | ok c => exact .passed ((t.applyValue_eq_ok_iff b c).mp hb)
      | error stage =>
        obtain ⟨i, hrejects, hstage⟩ := (t.applyValue_eq_error_iff b stage).mp hb
        exact .rejected hrejects hstage

/-- Threading a value through one transducer after another is threading it through their
composition, through none is leaving the parser as it is, and the stages of parsers are those of
transducers. A value that comes through keeps the rest that the parser left; one that is rejected
fails at the view where the parse began, for the first stage that puts out nothing; a failure stays
as it is; and the parse goes on for ever only where it did or a stage does. -/
theorem thread_fuses (p : Parser α β) :
    (∀ {γ δ : Type} (a : Transducer ω β γ) (b : Transducer ω γ δ),
      (p.thread a).thread b = p.thread (a.compose b)) ∧
    p.thread (.identity : Transducer ω β β) = p ∧
    (∀ {γ : Type} (label : String) (f : β → γ),
      p.thread (.map label f : Transducer ω β γ) = p.map label f) ∧
    (∀ (label : String) (keep : β → Bool),
      (p.thread (.filter label keep : Transducer ω β β)).description =
        (p.filter label keep).description ∧
      ∀ v, ((p.thread (.filter label keep : Transducer ω β β)).parse v).value =
        ((p.filter label keep).parse v).value) ∧
    ∀ {γ : Type} (t : Transducer ω β γ) (v : View α),
      Threaded t v (p.parse v).value ((p.thread t).parse v).value :=
  ⟨p.thread_thread, p.thread_identity, p.thread_map,
    fun label keep => ⟨rfl, p.value_thread_filter label keep⟩, p.threaded_parse⟩

end ParseFlow.Parser
