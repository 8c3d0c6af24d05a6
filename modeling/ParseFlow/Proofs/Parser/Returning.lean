import ParseFlow.Proofs.Parser.Locality
import ParseFlow.Proofs.Parser.Sequencing
import ParseFlow.Proofs.Pipeline.Composition

/-!
# Parsers that return

A parser is settled if every pipeline in its stages comes to an end on each value that it gets. Such
a parser returns, whatever it is given to parse: the primitives do, every stage and combinator runs
its parsers on what others have left, and the repetition loop makes no more attempts than its bound
allows. Where a pipeline has no end the parser that it is put on never returns.
-/
namespace ParseFlow.Parser

open View Pipeline

variable {α β γ δ : Type} [Item α]

/-- A parser that is built, and in which every pipeline comes to an end on the values that it
gets. -/
abbrev Settled (p : Parser α β) : Prop := BuiltBy ⟨False, True⟩ p

/-- The parser fares alike on equal windows, so that it leaves suffixes; and it returns. -/
structure Returning (p : Parser α β) : Prop where
  isLocal : Local p
  returns : ∀ ⦃v : View α⦄, v.Valid → (p.parse v).value.returns

theorem Returning.returns_rest {p : Parser α β} {q : Parser α γ} (hq : Returning q) (hp : Local p)
    {v rest : View α} {b : β} (hv : v.Valid) (h : (p.matcher v).value = .success b rest) :
    (q.matcher rest).value.returns :=
  hq.returns ((hp.isSuffix hv h).valid hv)

theorem returning_of_recognises {p : Parser α β} {find : List α → Option (β × List α)}
    {reason : String} (h : Recognises p find reason) : Returning p where
  isLocal := local_of_recognises h
  returns v hv := by
    rw [value_parse]
    cases hf : find v.window with
    | none => rw [h.missing hv hf]; rfl
    | some found => rw [h.found hv hf]; rfl

/-! ## Pipelines without endless expansions -/

section Finite

variable {ω : Type} {p : Parser α β}

/-- Values with finitely many items, of which none expands without end. -/
theorem settled_pipeItems (hp : Settled p) {items : β → Items γ}
    (hitems : ∀ b, ∃ xs, items b = .listed xs) {t : Transducer ω γ δ} (ht : t.FiniteBursts) :
    Settled (p.pipeItems items t) :=
  .pipe items t hp fun _ _ _ b _ _ => by
    obtain ⟨xs, hxs⟩ := hitems b
    obtain ⟨ys, -, hys⟩ := ht.exists_collect xs
    exact Option.isSome_iff_exists.mpr ⟨ys, hxs ▸ hys⟩

theorem settled_thread (hp : Settled p) {t : Transducer ω β γ} (ht : t.FiniteBursts) :
    Settled (p.thread t) :=
  .thread t hp fun _ _ _ b _ _ => Option.isSome_iff_exists.mpr (ht.exists_applyValue b)

end Finite

/-! ## Stages -/

section Stages

variable {p : Parser α β}

theorem returning_map (hp : Returning p) (label : String) (f : β → γ) :
    Returning (p.map label f) where
  isLocal := local_map hp.isLocal label f
  returns _ hv := (Outcome.returns_map _ f).trans (hp.returns hv)

theorem returning_mapTraced (hp : Returning p) (label : String) (f : β → Traced γ) :
    Returning (p.mapTraced label f) where
  isLocal := local_mapTraced hp.isLocal label f
  returns v hv := by
    rw [value_parse, value_mapTraced, Outcome.returns_map]
    exact hp.returns hv

theorem returning_flatMap {f : β → Parser α γ} (hp : Returning p) (hf : ∀ b, Returning (f b))
    (label : String) : Returning (p.flatMap label f) where
  isLocal := local_flatMap hp.isLocal (fun b => (hf b).isLocal) label
  returns v hv := by
    rw [value_parse, value_flatMap]
    exact Outcome.returns_flatMap (hp.returns hv) fun b rest hb =>
      (hf b).returns_rest hp.isLocal hv hb

theorem returning_filter (hp : Returning p) (label : String) (keep : β → Bool) :
    Returning (p.filter label keep) where
  isLocal := local_filter hp.isLocal label keep
  returns v hv := by
    rw [value_parse, value_filter]
    refine Outcome.returns_flatMap (hp.returns hv) fun b rest _ => ?_
    split <;> rfl

theorem returning_pipeItems {ω : Type} (hp : Returning p) (items : β → Items γ)
    (t : Transducer ω γ δ) (ht : p.AllValues fun b => (t.collect (items b)).isSome) :
    Returning (p.pipeItems items t) where
  isLocal := local_pipeItems hp.isLocal items t
  returns v hv := by
    rw [value_parse, value_pipeItems]
    exact Outcome.returns_flatMap (hp.returns hv) fun b rest hb =>
      Outcome.returns_ofValue? (ht hv hb) rest

theorem returning_thread {ω : Type} (hp : Returning p) (t : Transducer ω β γ)
    (ht : p.AllValues fun b => (t.applyValue b).isSome) : Returning (p.thread t) where
  isLocal := local_thread hp.isLocal t
  returns v hv := by
    rw [value_parse, value_thread]
    refine Outcome.returns_flatMap (hp.returns hv) fun b rest hb => ?_
    obtain ⟨result, hresult⟩ := Option.isSome_iff_exists.mp (ht hv hb)
    rw [hresult]
    cases result <;> rfl

end Stages

/-! ## Sequences -/

theorem returning_then {p : Parser α β} {q : Parser α γ} (hp : Returning p) (hq : Returning q) :
    Returning (p.then q) where
  isLocal := local_then hp.isLocal hq.isLocal
  returns v hv := by
    rw [value_parse, value_then]
    refine Outcome.returns_flatMap (hp.returns hv) fun b rest hb => ?_
    rw [Outcome.returns_map]
    exact hq.returns_rest hp.isLocal hv hb

theorem returning_redescribe {p : Parser α β} (hp : Returning p) (form : Form)
    (parts : List Description) : Returning (p.redescribe form parts) :=
  ⟨hp.isLocal, hp.returns⟩

theorem returning_precededBy {core : Parser α β} {opening : Parser α γ} (hc : Returning core)
    (ho : Returning opening) : Returning (core.precededBy opening) :=
  returning_redescribe (returning_map (returning_then ho hc) _ _) _ _

theorem returning_followedBy {core : Parser α β} {closing : Parser α γ} (hc : Returning core)
    (hl : Returning closing) : Returning (core.followedBy closing) :=
  returning_redescribe (returning_map (returning_then hc hl) _ _) _ _

theorem returning_list {parsers : List (Parser α β)} (h : ∀ p ∈ parsers, Returning p) :
    Returning (list parsers) := by
  refine ⟨local_list fun p hp => (h p hp).isLocal, ?_⟩
  induction parsers with
  | nil => exact fun v _ => rfl
  | cons p parsers ih =>
    have hp : Returning p := h p List.mem_cons_self
    have hlater : ∀ q ∈ parsers, Returning q := fun q hq => h q (List.mem_cons_of_mem p hq)
    intro v hv
    rw [value_parse, value_list_cons]
    refine Outcome.returns_flatMap (hp.returns hv) fun b rest hb => ?_
    rw [Outcome.returns_map]
    exact ih hlater ((hp.isLocal.isSuffix hv hb).valid hv)

theorem returning_tuple {n : Nat} {parsers : List (Parser α β)} {q : Parser α (Vector β n)}
    (h : ∀ p ∈ parsers, Returning p) (hq : tuple n parsers = .ok q) : Returning q where
  isLocal := local_tuple (fun p hp => (h p hp).isLocal) hq
  returns v hv := by
    rw [value_parse, value_tuple hq]
    refine Outcome.returns_flatMap ((returning_list h).returns hv) fun bs rest _ => ?_
    split <;> rfl

/-! ## Repetition -/

section Repetition

variable {p : Parser α β}

theorem Returning.returns_attempts (hp : Returning p) (max : Nat) {v : View α} (hv : v.Valid) :
    (p.attempts max v).value.returns := by
  induction max generalizing v with
  | zero => rfl
  | succ max ih =>
    have hreturns := hp.returns hv
    cases hval : (p.parse v).value with
    | failure reason rest => rw [attempts_failure hval]; rfl
    | endless rest => rw [hval] at hreturns; cases hreturns
    | success b rest =>
      by_cases ho : rest.offset = v.offset
      · rw [attempts_stuck hval ho]
        rfl
      · rw [attempts_onwards hval ho, Outcome.returns_map]
        exact ih ((hp.isLocal.isSuffix hv hval).valid hv)

theorem returning_many (hp : Returning p) : Returning p.many where
  isLocal := local_many hp.isLocal
  returns v hv := by
    rw [value_parse, value_many]
    exact hp.returns_attempts maxIndex hv

theorem returning_many1 (hp : Returning p) : Returning p.many1 where
  isLocal := local_many1 hp.isLocal
  returns v hv := by
    have hreturns := hp.returns hv
    rw [value_parse, value_many1]
    cases hval : (p.parse v).value with
    | failure reason rest => rw [← value_parse, hval]; rfl
    | endless rest => rw [hval] at hreturns; cases hreturns
    | success b rest =>
      rw [← value_parse, hval]
      dsimp only
      split
      · rfl
      · rw [Outcome.returns_map]
        exact hp.returns_attempts maxIndex ((hp.isLocal.isSuffix hv hval).valid hv)

theorem returning_repeat {q : Parser α (List β)} {min max : Nat} (hp : Returning p)
    (hq : p.repeat min max = .ok q) : Returning q where
  isLocal := local_repeat hp.isLocal hq
  returns v hv := by
    rw [value_parse, value_repeat hq]
    refine Outcome.returns_flatMap (hp.returns_attempts max hv) fun bs rest _ => ?_
    split <;> rfl

end Repetition

/-- A built parser returns if the rules ask of its pipelines that they end. -/
theorem BuiltBy.returning {rules : Rules} {p : Parser α β} (hp : BuiltBy rules p)
    (h : rules.ends) : Returning p := by
  induction hp with
  | string literal => exact returning_of_recognises (recognises_string literal)
  | regex compiled => exact returning_of_recognises (recognises_longest compiled)
  | pattern compiled => exact returning_of_recognises (recognises_pattern compiled)
  | sequence items => exact returning_of_recognises (recognises_sequence items)
  | satisfy label accept => exact returning_of_recognises (recognises_satisfy label accept)
  | any => exact returning_of_recognises recognises_any
  | «end» => exact returning_of_recognises recognises_end
  | «then» _ _ hp hq => exact returning_then hp hq
  | precededBy _ _ hc ho => exact returning_precededBy hc ho
  | followedBy _ _ hc hl => exact returning_followedBy hc hl
  | between _ _ _ hc ho hl =>
    exact returning_redescribe (returning_followedBy (returning_precededBy hc ho) hl) _ _
  | many _ hp => exact returning_many hp
  | many1 _ hp => exact returning_many1 hp
  | «repeat» _ hq hp => exact returning_repeat hp hq
  | list _ hp => exact returning_list hp
  | pair _ _ hp hq => exact returning_redescribe (returning_then hp hq) _ _
  | triple _ _ _ h₁ h₂ h₃ =>
    exact returning_redescribe (returning_map (returning_then (returning_then h₁ h₂) h₃) _ _) _ _
  | tuple _ hq hp => exact returning_tuple hp hq
  | map label f _ hp => exact returning_map hp label f
  | mapTraced label _ _ hp => exact returning_mapTraced hp label _
  | flatMap label _ _ hp hf => exact returning_flatMap hp hf label
  | filter label keep _ hp => exact returning_filter hp label keep
  | pipe items t _ ht hp => exact returning_pipeItems hp items t (ht h)
  | thread t _ ht hp => exact returning_thread hp t (ht h)

end ParseFlow.Parser
