import Mathlib.Algebra.Group.Nat.Defs
import ParseFlow.Proofs.Pipeline.Cutting
import ParseFlow.Proofs.Pipeline.Terse

/-!
# Reading on demand

A prompt transducer reads no more than it must. When a consumer receives an output, the items read
so far are the fewest of which the transducer makes that many outputs, and what has been logged is
what the items have given rise to, each before the next was read. This is so for lists as for inputs
that do not end, and where an item expands without end its log is that of an expansion cut short
behind all that is seen of it.
-/
namespace ParseFlow.Pipeline

variable {ω α β : Type}

/-! ## Courses -/

theorem outputs_effects (effects : List (Effect ω β)) (rest : List (Happening ω α β)) :
    outputs (effects.map Effect.happening ++ rest) = put effects ++ outputs rest := by
  induction effects with
  | nil => rfl
  | cons e effects ih =>
    cases e with
    | note w => exact ih
    | output y => exact congrArg (List.cons y) ih

theorem ended_not_mem_effects (effects : List (Effect ω β)) :
    (.ended : Happening ω α β) ∉ effects.map Effect.happening := by
  intro h
  obtain ⟨e, -, he⟩ := List.mem_map.mp h
  cases e <;> cases he

namespace Course.Sound

variable {c : Course ω α β} (h : c.Sound) (last : List (Happening ω α β))

include h

/-- What is put out over a story is what the course makes of the items. -/
theorem outputs_toldFrom (hlast : outputs last = []) (before items : List α) :
    c.made (before ++ items) = c.made before ++ outputs (c.toldFrom last before items) := by
  induction items generalizing before with
  | nil =>
    cases ho : c.isOver before with
    | true =>
      rw [Course.toldFrom_over ho, List.append_nil]
      exact (List.append_nil _).symm
    | false => rw [Course.toldFrom_nil ho, hlast, List.append_nil, List.append_nil]
  | cons x items ih =>
    cases ho : c.isOver before with
    | true =>
      rw [Course.toldFrom_over ho, h.made_append_over ho]
      exact (List.append_nil _).symm
    | false =>
      rw [Course.toldFrom_cons ho]
      show _ = c.made before ++ outputs ((c.gives before x).map Effect.happening ++ _)
      rw [outputs_effects, List.append_cons, ih, h.made_concat before x ho, List.append_assoc]

theorem outputs_told (hlast : outputs last = []) (items : List α) :
    outputs (c.told last items) = c.made items := by
  have hfrom := h.outputs_toldFrom last hlast [] items
  rw [List.nil_append, h.made_nil] at hfrom
  show outputs (c.opening.map Effect.happening ++ _) = _
  rw [outputs_effects, hfrom]

/-- The end is reported so far only if the run is over. -/
theorem over_of_ended {before items : List α}
    (he : (.ended : Happening ω α β) ∈ c.toldFrom [] before items) :
    c.isOver (before ++ items) = true := by
  induction items generalizing before with
  | nil =>
    cases ho : c.isOver before with
    | true => rwa [List.append_nil]
    | false =>
      rw [Course.toldFrom_nil ho] at he
      cases he
  | cons x items ih =>
    cases ho : c.isOver before with
    | true => exact h.over_append ho (x :: items)
    | false =>
      rw [Course.toldFrom_cons ho] at he
      rw [List.append_cons]
      rcases List.mem_cons.mp he with he | he
      · cases he
      rcases List.mem_append.mp he with he | he
      · exact absurd he (ended_not_mem_effects _)
      · exact ih he

end Course.Sound

namespace Course

variable (c : Course ω α β)

/-- What is told over a list comes to an end. -/
theorem ended_mem_log (items : List α) : .ended ∈ c.log items := by
  have hfrom : ∀ before, (.ended : Happening ω α β) ∈ c.toldFrom [.ended] before items := by
    induction items with
    | nil =>
      intro before
      cases ho : c.isOver before with
      | true => rw [toldFrom_over ho]; exact List.mem_singleton_self _
      | false => rw [toldFrom_nil ho]; exact List.mem_singleton_self _
    | cons x items ih =>
      intro before
      cases ho : c.isOver before with
      | true => rw [toldFrom_over ho]; exact List.mem_singleton_self _
      | false =>
        rw [toldFrom_cons ho]
        exact List.mem_cons_of_mem _ (List.mem_append_right _ (ih _))
  exact List.mem_cons_of_mem _ (List.mem_append_right _ (hfrom []))

/-- Unless the end is told, all items are read. -/
theorem length_le_reads_toldFrom {before items : List α}
    (h : (.ended : Happening ω α β) ∉ c.toldFrom [] before items) :
    items.length ≤ reads (c.toldFrom [] before items) := by
  induction items generalizing before with
  | nil => exact Nat.zero_le _
  | cons x items ih =>
    cases ho : c.isOver before with
    | true =>
      rw [toldFrom_over ho] at h
      exact absurd (List.mem_singleton_self _) h
    | false =>
      rw [toldFrom_cons ho] at h ⊢
      have hrest := ih fun hmem => h (List.mem_cons_of_mem _ (List.mem_append_right _ hmem))
      rw [reads_read, reads_append, List.length_cons]
      omega

end Course

/-- More items only add to what is told so far. -/
theorem Course.toldFrom_isPrefix (c : Course ω α β) (before items more : List α) :
    c.toldFrom [] before items <+: c.toldFrom [] before (items ++ more) := by
  induction items generalizing before with
  | nil =>
    cases ho : c.isOver before with
    | true => exact ⟨[], by rw [List.append_nil, toldFrom_over ho, toldFrom_over ho]⟩
    | false =>
      rw [toldFrom_nil ho]
      exact List.nil_prefix
  | cons x items ih =>
    cases ho : c.isOver before with
    | true => exact ⟨[], by rw [List.append_nil, toldFrom_over ho, toldFrom_over ho]⟩
    | false =>
      rw [List.cons_append, toldFrom_cons ho, toldFrom_cons ho]
      obtain ⟨rest, hr⟩ := ih (before ++ [x])
      refine ⟨rest, ?_⟩
      rw [← hr, List.cons_append, List.append_assoc]

theorem Course.logSoFar_isPrefix (c : Course ω α β) (items more : List α) :
    c.logSoFar items <+: c.logSoFar (items ++ more) := by
  obtain ⟨rest, hr⟩ := c.toldFrom_isPrefix [] items more
  refine ⟨rest, ?_⟩
  rw [logSoFar, logSoFar, told, told, ← hr, List.cons_append, List.append_assoc]

/-! ## Unbounded inputs -/

/-- The story over an unbounded input is that over a beginning that answers all pulls, or the
longest one that is tried. -/
theorem Machine.storyUnbounded_eq (m : Machine ω α β) (input : Nat → α)
    (pulls doublings length : Nat) :
    ∃ n, storyUnbounded m input pulls doublings length =
        m.storySoFar m.start (first input n) ∧
      (answered pulls (m.storySoFar m.start (first input n)) = true ∨
        n = length * 2 ^ doublings) := by
  induction doublings generalizing length with
  | zero => exact ⟨length, rfl, .inr (Nat.mul_one length).symm⟩
  | succ doublings ih =>
    by_cases ha : answered pulls (m.storySoFar m.start (first input length)) = true
    · exact ⟨length, if_pos ha, .inl ha⟩
    · obtain ⟨n, hs, hn⟩ := ih (2 * length)
      refine ⟨n, (if_neg ha).trans hs, ?_⟩
      have hp : length * 2 ^ (doublings + 1) = 2 * length * 2 ^ doublings := by
        rw [Nat.pow_succ, Nat.mul_comm 2 length, Nat.mul_assoc, Nat.mul_comm 2]
      rwa [hp]

/-! ## Stories up to their end -/

section SameUntilEnd

variable {story other : List (Happening ω α β)}

theorem SameUntilEnd.symm (h : SameUntilEnd story other) : SameUntilEnd other story := by
  rcases h with rfl | ⟨before, rest, others, rfl, rfl⟩
  · exact .inl rfl
  · exact .inr ⟨before, others, rest, rfl, rfl⟩

theorem SameUntilEnd.outputs_eq (h : SameUntilEnd story other) : outputs story = outputs other := by
  rcases h with rfl | ⟨before, rest, others, rfl, rfl⟩
  · rfl
  · induction before with
    | nil => rfl
    | cons e before ih =>
      cases e with
      | output y => exact congrArg (List.cons y) ih
      | ended => rfl
      | read x => exact ih
      | note w => exact ih
      | applied => exact ih

theorem SameUntilEnd.ended_mem (h : SameUntilEnd story other) (he : .ended ∈ other) :
    .ended ∈ story := by
  rcases h with rfl | ⟨before, rest, others, rfl, rfl⟩
  · exact he
  · exact List.mem_append_right before List.mem_cons_self

/-- Pulls are answered by as many outputs or by the end. -/
theorem outputs_or_ended (pulls : Nat) (h : answered pulls story = true) :
    pulls ≤ (outputs story).length ∨ .ended ∈ story := by
  rcases Bool.or_eq_true_iff.mp h with h | h
  · exact .inl (of_decide_eq_true h)
  · obtain ⟨e, he, ht⟩ := List.any_eq_true.mp h
    cases e with
    | ended => exact .inr he
    | _ => cases ht

theorem outputs_isPrefix (h : story <+: other) : outputs story <+: outputs other := by
  obtain ⟨rest, rfl⟩ := h
  induction story with
  | nil => exact List.nil_prefix
  | cons e story ih =>
    cases e with
    | output y => exact List.cons_prefix_cons.mpr ⟨rfl, ih⟩
    | ended => exact List.prefix_refl _
    | read x => exact ih
    | note w => exact ih
    | applied => exact ih

/-- Nothing is put out behind the end. -/
theorem outputs_of_ended (h : story <+: other) (he : .ended ∈ story) :
    outputs other = outputs story := by
  obtain ⟨rest, rfl⟩ := h
  obtain ⟨front, more, rfl, -⟩ := List.eq_append_cons_of_mem he
  rw [List.append_assoc, List.cons_append, outputs_ended, outputs_ended]

/-- What is told of a story, or goes on behind its end, is up to that end a beginning of the
other. -/
theorem SameUntilEnd.exists_isPrefix (h : SameUntilEnd story other)
    {told : List (Happening ω α β)} (ht : told <+: other ∨ (other <+: told ∧ .ended ∈ other)) :
    ∃ front, front <+: story ∧ SameUntilEnd front told := by
  rcases ht with ht | ⟨⟨more, rfl⟩, he⟩
  · rcases h with rfl | ⟨before, rest, others, rfl, rfl⟩
    · exact ⟨told, ht, .inl rfl⟩
    · have hend : ∀ rest : List (Happening ω α β),
          before ++ [.ended] <+: before ++ .ended :: rest :=
        fun rest => ⟨rest, List.append_assoc _ _ _⟩
      rcases List.prefix_or_prefix_of_prefix ht (hend others) with hp | ⟨more, rfl⟩
      · exact ⟨told, hp.trans (hend rest), .inl rfl⟩
      · exact ⟨_, hend rest, .inr ⟨before, [], more, rfl, List.append_assoc _ _ _⟩⟩
  · refine ⟨story, List.prefix_refl _, .inr ?_⟩
    rcases h with rfl | ⟨before, rest, others, rfl, rfl⟩
    · obtain ⟨front, rest, rfl, -⟩ := List.eq_append_cons_of_mem he
      exact ⟨front, rest, rest ++ more, rfl, List.append_assoc _ _ _⟩
    · exact ⟨before, rest, others ++ more, rfl, List.append_assoc _ _ _⟩

end SameUntilEnd

/-! ## Demand -/

theorem Op.shortened_prompt (n : Nat) {op : Op ω α β} (h : op.Prompt) :
    (op.shortened n).Prompt := by
  cases op with
  | flatMap label f => trivial
  | _ => exact h

namespace Transducer

theorem shortened_prompt (n : Nat) {t : Transducer ω α β} (h : t.Prompt) :
    (t.shortened n).Prompt := by
  induction t with
  | identity => trivial
  | op operation => exact Op.shortened_prompt n h
  | compose first second hf hg => exact ⟨hf h.1, hg h.2⟩

/-- The stories over lists, and over inputs that do not end, are beginnings of sessions. -/
theorem stories_are_sessions (t : Transducer ω α β) :
    (∀ items : List α, ∃ steps, t.session (Items.listed items).get? steps = t.story items) ∧
      ∀ (input : Nat → α) (pulls doublings length : Nat), ∃ steps,
        t.session (Items.endless input).get? steps =
          storyUnbounded t.machine input pulls doublings length := by
  refine ⟨t.exists_session_eq_story, fun input pulls doublings length => ?_⟩
  obtain ⟨n, hs, -⟩ := t.machine.storyUnbounded_eq input pulls doublings length
  rw [hs]
  exact t.exists_session_eq_storySoFar input n

/-- A consumer that pulls `k` times sees the story up to output `k`, and by then the items read are
the fewest first ones of which alone `k` outputs come. -/
structure ReadsLeast (t : Transducer ω α β) (beginning : Nat → List α) (k : Nat)
    (story : List (Happening ω α β)) : Prop where
  received : ∃ front y, seen k story = front ++ [.output y] ∧ (outputs front).length + 1 = k
  least : IsLeast {n | t.Yields (beginning n) k} (reads (seen k story))

/-- The transducer reads on demand. -/
structure OnDemand (t : Transducer ω α β) : Prop where
  /-- In every session, up to an output that there is. -/
  reads_least : ∀ (input : Items α) k steps, 0 < k →
    k ≤ (outputs (t.session input.get? steps)).length →
    t.ReadsLeast input.upTo k (t.session input.get? steps)
  /-- Up to the end, what is told in no more than `n` steps begins the log in which expansions that
  never end are cut short behind `n` items: each item is read, and then all is logged that it gives
  rise to. -/
  told_log : ∀ (items : List α) steps n, steps ≤ n →
    ∃ front, front <+: (t.shortened n).course.log items ∧
      SameUntilEnd front (t.session (Items.listed items).get? steps)
  told_log_unbounded : ∀ (input : Nat → α) steps n, steps ≤ n →
    ∃ front, front <+: (t.shortened n).course.logSoFar (first input n) ∧
      SameUntilEnd front (t.session (Items.endless input).get? steps)

/-- The stories of the transducer are told on demand. -/
structure TellsOnDemand (t : Transducer ω α β) : Prop where
  yields_iff : ∀ items k, t.Yields items k ↔ ∃ outs, t.collect items = some outs ∧ k ≤ outs.length
  /-- Over a list, up to an output that there is. -/
  reads_least : ∀ items k, 0 < k → t.Yields items k → t.ReadsLeast items.take k (t.story items)
  /-- Over an unbounded input, up to an output that comes of the items that may be tried; what is
  seen is the log of any beginning that makes the output. -/
  reads_least_unbounded : ∀ (input : Nat → α) k n doublings length, 0 < k →
    t.Yields (first input n) k → n ≤ length * 2 ^ doublings →
    t.ReadsLeast (first input) k (storyUnbounded t.machine input k doublings length) ∧
      seen k (storyUnbounded t.machine input k doublings length) =
        seen k (t.course.logSoFar (first input n))
  /-- However often a consumer pulls, it sees each read and then what the item gives rise to. -/
  seen_log : ∀ items pulls, seen pulls (t.story items) = seen pulls (t.course.log items)
  seen_log_unbounded : ∀ (input : Nat → α) pulls doublings length,
    ∃ n, seen pulls (storyUnbounded t.machine input pulls doublings length) =
      seen pulls (t.course.logSoFar (first input n))

variable {t : Transducer ω α β}

/-! ## Sessions -/

section Session

variable (h : t.Prompt)

include h

theorem readsLeast_of_prompt (input : Items α) {k steps : Nat} (hpos : 0 < k)
    (hk : k ≤ (outputs (t.session input.get? steps)).length) :
    t.ReadsLeast input.upTo k (t.session input.get? steps) := by
  refine ⟨?_, isLeast_yields h input hpos hk⟩
  obtain ⟨n, hn⟩ := exists_receives hpos hk
  obtain ⟨front, y, hs, ho, -⟩ := hn.seen_eq
  exact ⟨front, y, by rw [← hs [], List.append_nil], ho⟩

theorem told_log_of_prompt (items : List α) {steps n : Nat} (hle : steps ≤ n) :
    ∃ front, front <+: (t.shortened n).course.log items ∧
      SameUntilEnd front (t.session (Items.listed items).get? steps) := by
  obtain ⟨-, stands, hk⟩ :=
    (t.shortened n).keeps (shortened_prompt n h) (t.shortened_finiteBursts n)
  obtain ⟨more, hmore⟩ := t.exists_session_shortened (Items.listed items).get? hle
  obtain ⟨all, hall⟩ := (t.shortened n).exists_session_eq_story items
  have hsame : SameUntilEnd ((t.shortened n).course.log items) ((t.shortened n).story items) :=
    hk.log items
  refine hsame.exists_isPrefix ?_
  rw [← hmore, ← hall]
  rcases Nat.le_total more all with hle | hle
  · exact .inl ((t.shortened n).machine.session_isPrefix hle _ 0 _)
  · refine .inr ⟨(t.shortened n).machine.session_isPrefix hle _ 0 _, ?_⟩
    rw [hall]
    exact hsame.symm.ended_mem ((t.shortened n).course.ended_mem_log items)

theorem told_log_unbounded_of_prompt (input : Nat → α) {steps n : Nat} (hle : steps ≤ n) :
    ∃ front, front <+: (t.shortened n).course.logSoFar (first input n) ∧
      SameUntilEnd front (t.session (Items.endless input).get? steps) := by
  obtain ⟨-, stands, hk⟩ :=
    (t.shortened n).keeps (shortened_prompt n h) (t.shortened_finiteBursts n)
  obtain ⟨more, hmore⟩ := t.exists_session_shortened (Items.endless input).get? hle
  obtain ⟨all, hall⟩ := (t.shortened n).exists_session_eq_storySoFar input n
  have hsame := hk.logSoFar (first input n)
  refine hsame.exists_isPrefix ?_
  rw [← hmore, ← hall]
  rcases Nat.le_total more all with hle' | hle'
  · exact .inl ((t.shortened n).machine.session_isPrefix hle' _ 0 _)
  · have hp := (t.shortened n).machine.session_isPrefix hle' (Items.endless input).get? 0
      (t.shortened n).machine.start
    refine .inr ⟨hp, by_contra fun hne => ?_⟩
    -- All `n` items are read behind the application, but no more than `n` things are told.
    rw [hall] at hne
    have heq : (t.shortened n).course.logSoFar (first input n) =
        (t.shortened n).machine.storySoFar (t.shortened n).machine.start (first input n) := by
      rcases hsame with heq | ⟨before, rest, others, -, hstory⟩
      · exact heq
      · rw [hstory] at hne
        exact absurd (List.mem_append_right before List.mem_cons_self) hne
    have hmem : (.ended : Happening ω α β) ∉
        (t.shortened n).course.toldFrom [] [] (first input n) := by
      intro hmem
      rw [← heq] at hne
      exact hne (List.mem_cons_of_mem _ (List.mem_append_right _ hmem))
    have hreads := (t.shortened n).course.length_le_reads_toldFrom hmem
    rw [length_first] at hreads
    have hfew : (t.session (Items.endless input).get? steps).length ≤ n :=
      Nat.le_trans (t.machine.length_session_le _ steps 0 _) hle
    have hlen := hp.length_le
    rw [← session, ← session, hmore, hall, ← heq, Course.logSoFar, Course.told, List.length_cons,
      List.length_append] at hlen
    have hcount : reads ((t.shortened n).course.toldFrom [] [] (first input n)) ≤
        ((t.shortened n).course.toldFrom [] [] (first input n)).length := List.countP_le_length
    omega

end Session

/-! ## Stories -/

section Stories

variable (hsound : t.course.Sound) {stands : List α → t.machine.State → Prop}
  (hk : t.machine.Keeps t.course stands)

include hsound hk

theorem outputs_story_made (items : List α) : outputs (t.story items) = t.course.made items := by
  have hsame : SameUntilEnd (t.course.log items) (t.story items) := hk.log items
  rw [← hsame.outputs_eq, Course.log, hsound.outputs_told [.ended] rfl]

theorem yields_iff_made (items : List α) (k : Nat) :
    t.Yields items k ↔ k ≤ (t.course.made items).length := by
  have hsame : SameUntilEnd (t.course.log items) (t.story items) := hk.log items
  obtain ⟨all, hall⟩ := t.exists_session_eq_story items
  rw [← outputs_story_made hsound hk]
  constructor
  · rintro ⟨steps, hsteps⟩
    rcases Nat.le_total steps all with hle | hle
    · have hp := t.machine.session_isPrefix hle (Items.listed items).get? 0 t.machine.start
      exact Nat.le_trans hsteps (hall ▸ (outputs_isPrefix hp).length_le)
    · have hp := t.machine.session_isPrefix hle (Items.listed items).get? 0 t.machine.start
      have hended : .ended ∈ t.session (Items.listed items).get? all :=
        hall ▸ hsame.symm.ended_mem (t.course.ended_mem_log items)
      rwa [session, outputs_of_ended hp hended, ← session, hall] at hsteps
  · intro hle
    exact ⟨all, hall.symm ▸ hle⟩

section Unbounded

variable {input : Nat → α} {k : Nat}

/-- If the story over a beginning answers all pulls, then the outputs that are made of any beginning
are made of that one. -/
theorem made_of_answered {n length : Nat}
    (hle : k ≤ (t.course.made (first input n)).length)
    (ha : answered k (t.machine.storySoFar t.machine.start (first input length)) = true ∨
      n ≤ length) : k ≤ (t.course.made (first input length)).length := by
  have hlonger : n ≤ length → k ≤ (t.course.made (first input length)).length := by
    intro hn
    obtain ⟨others, ho⟩ := first_of_le input hn
    rw [ho]
    exact Nat.le_trans hle (hsound.made_isPrefix _ others).length_le
  rcases ha with ha | hn
  · have hsame := hk.logSoFar (first input length)
    rcases outputs_or_ended k ha with hout | hended
    · rwa [← hsame.outputs_eq, Course.logSoFar, hsound.outputs_told [] rfl] at hout
    · have hover : t.course.isOver (first input length) = true := by
        have hin := hsame.ended_mem hended
        rw [Course.logSoFar, Course.told] at hin
        rcases List.mem_cons.mp hin with hin | hin
        · cases hin
        rcases List.mem_append.mp hin with hin | hin
        · exact absurd hin (ended_not_mem_effects _)
        · exact hsound.over_of_ended hin
      rcases Nat.le_total n length with hn | hn
      · exact hlonger hn
      · obtain ⟨others, ho⟩ := first_of_le input hn
        rwa [ho, hsound.made_append_over hover] at hle
  · exact hlonger hn

omit hk in
/-- Beginnings that make an output have the same log up to it. -/
theorem seen_logSoFar_eq (hpos : 0 < k) {m n : Nat} (hmn : m ≤ n)
    (hm : k ≤ (t.course.made (first input m)).length) :
    seen k (t.course.logSoFar (first input n)) = seen k (t.course.logSoFar (first input m)) := by
  have hout : outputs (t.course.logSoFar (first input m)) = t.course.made (first input m) :=
    hsound.outputs_told [] rfl _
  obtain ⟨j, hr⟩ := exists_receives hpos (hout ▸ hm)
  obtain ⟨others, ho⟩ := first_of_le input hmn
  rw [ho]
  exact hr.seen_isPrefix (t.course.logSoFar_isPrefix _ others)

end Unbounded
end Stories

theorem tellsOnDemand_of_prompt (h : t.Prompt) (hb : t.FiniteBursts) : t.TellsOnDemand := by
  obtain ⟨hsound, stands, hk⟩ := t.keeps h hb
  constructor
  · intro items k
    rw [yields_iff_made hsound hk, hb.collect_eq]
    simp
  · intro items k hpos hyields
    obtain ⟨steps, hs⟩ := t.exists_session_eq_story items
    have hle : k ≤ (outputs (t.story items)).length := by
      rw [outputs_story_made hsound hk]
      exact (yields_iff_made hsound hk items k).mp hyields
    rw [← hs] at hle ⊢
    exact readsLeast_of_prompt h (.listed items) hpos hle
  · intro input k n doublings length hpos hyields hn
    have hle := (yields_iff_made hsound hk _ k).mp hyields
    obtain ⟨reached, hs, hstop⟩ := t.machine.storyUnbounded_eq input k doublings length
    have hmade : k ≤ (t.course.made (first input reached)).length := by
      refine made_of_answered hsound hk hle (hstop.imp id fun hr => ?_)
      rwa [hr]
    have hsame := hk.logSoFar (first input reached)
    have hout :
        k ≤ (outputs (t.machine.storySoFar t.machine.start (first input reached))).length := by
      rwa [← hsame.outputs_eq, Course.logSoFar, hsound.outputs_told [] rfl]
    obtain ⟨steps, hsteps⟩ := t.exists_session_eq_storySoFar input reached
    rw [hs]
    constructor
    · rw [← hsteps] at hout ⊢
      exact readsLeast_of_prompt h (.endless input) hpos hout
    · rw [← hsame.seen_eq]
      rcases Nat.le_total n reached with hle' | hle'
      · exact seen_logSoFar_eq hsound hpos hle' hle
      · exact (seen_logSoFar_eq hsound hpos hle' hmade).symm
  · intro items pulls
    exact ((hk.log items).seen_eq pulls).symm
  · intro input pulls doublings length
    obtain ⟨n, hs, -⟩ := t.machine.storyUnbounded_eq input pulls doublings length
    refine ⟨n, ?_⟩
    rw [hs]
    exact ((hk.logSoFar _).seen_eq pulls).symm

/-- A prompt transducer reads on demand, and so it is told in its stories if no item expands without
end. -/
theorem onDemand_of_prompt (h : t.Prompt) : t.OnDemand ∧ (t.FiniteBursts → t.TellsOnDemand) :=
  ⟨⟨fun input _ _ => readsLeast_of_prompt h input, fun items _ _ => told_log_of_prompt h items,
    fun input _ _ => told_log_unbounded_of_prompt h input⟩, tellsOnDemand_of_prompt h⟩

/-- Every item twice, up to the third output; and all numbers from an item on, of which the first
two are received when one item has been read. -/
theorem onDemand_of_prompt_twice :
    let t : Transducer Nat Nat Nat :=
      (inspect "seen" id).compose ((flatMap "twice" fun x => [x, x]).compose (take 3))
    let u : Transducer Nat Nat Nat :=
      (inspect "seen" id).compose (flatMap "onward" fun x => Items.endless (x + ·))
    t.Prompt ∧ t.OnDemand ∧ IsLeast {m | t.Yields (first (· + 5) m) 3} 2 ∧
      (∀ pulls, seen pulls (t.story [5, 6, 7]) = seen pulls
        [.applied, .read 5, .note 5, .output 5, .output 5, .read 6, .note 6, .output 6,
          .ended]) ∧
      u.Prompt ∧ u.OnDemand ∧ IsLeast {m | u.Yields ([5, 6].take m) 2} 1 := by
  intro t u
  have hp : t.Prompt := ⟨trivial, trivial, trivial⟩
  have hb : t.FiniteBursts := ⟨trivial, fun x => ⟨[x, x], rfl⟩, trivial⟩
  have hu : u.Prompt := ⟨trivial, trivial⟩
  obtain ⟨ht, htells⟩ := onDemand_of_prompt hp
  obtain ⟨hu', -⟩ := onDemand_of_prompt hu
  have hyields : t.Yields (first (· + 5) 2) 3 := ⟨12, by decide⟩
  obtain ⟨⟨-, hleast⟩, -⟩ :=
    (htells hb).reads_least_unbounded (· + 5) 3 2 3 1 (by decide) hyields (by decide)
  have hreads : reads (seen 3 (storyUnbounded t.machine (· + 5) 3 3 1)) = 2 := by decide
  rw [hreads] at hleast
  obtain ⟨-, honce⟩ := hu'.reads_least (.listed [5, 6]) 2 8 (by decide) (by decide)
  have hone : reads (seen 2 (u.session (Items.listed [5, 6]).get? 8)) = 1 := by decide
  rw [hone] at honce
  refine ⟨hp, ht, hleast, fun pulls => ?_, hu, hu', honce⟩
  have hlog : t.course.log [5, 6, 7] =
      [.applied, .read 5, .note 5, .output 5, .output 5, .read 6, .note 6, .output 6, .ended] := by
    decide
  rw [(htells hb).seen_log, hlog]

end Transducer
end ParseFlow.Pipeline
