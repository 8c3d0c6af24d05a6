import ParseFlow.Proofs.Pipeline.Session

/-!
# Receiving an output

A consumer that waits for an output sees what is told up to it. How many items have been read by
then is told by a rule for each thing that may happen before; the output comes within so many reads
if it is put out before any more.
-/
namespace ParseFlow.Pipeline

variable {ω α β : Type}

section Seen

theorem seen_read (pulls : Nat) (x : α) (rest : List (Happening ω α β)) :
    seen pulls (.read x :: rest) = .read x :: seen pulls rest := by
  cases pulls <;> rfl

theorem seen_reads (pulls : Nat) (items : List α) (rest : List (Happening ω α β)) :
    seen pulls (items.map .read ++ rest) = items.map .read ++ seen pulls rest := by
  induction items with
  | nil => rfl
  | cons x items ih => rw [List.map_cons, List.cons_append, seen_read, ih, List.cons_append]

theorem seen_note (pulls : Nat) (w : ω) (rest : List (Happening ω α β)) :
    seen pulls (.note w :: rest) = .note w :: seen pulls rest := by
  cases pulls <;> rfl

end Seen

/-! ## The reads before an output -/

/-- The story comes to its output numbered `pulls`, counting from one, after so many reads. -/
inductive Receives : List (Happening ω α β) → (pulls reads : Nat) → Prop where
  | here (y : β) (rest : List (Happening ω α β)) : Receives (.output y :: rest) 1 0
  | output {story : List (Happening ω α β)} {pulls reads : Nat} (y : β) :
    Receives story (pulls + 1) reads → Receives (.output y :: story) (pulls + 2) reads
  | read {story : List (Happening ω α β)} {pulls reads : Nat} (x : α) :
    Receives story pulls reads → Receives (.read x :: story) pulls (reads + 1)
  | note {story : List (Happening ω α β)} {pulls reads : Nat} (w : ω) :
    Receives story pulls reads → Receives (.note w :: story) pulls reads
  | applied {story : List (Happening ω α β)} {pulls reads : Nat} :
    Receives story (pulls + 1) reads → Receives (.applied :: story) (pulls + 1) reads

namespace Receives

variable {story : List (Happening ω α β)} {pulls n : Nat}

/-- Nothing is seen of what stands behind the output, and it is the last thing seen. -/
theorem seen_eq (h : Receives story pulls n) :
    ∃ front y, (∀ rest, seen pulls (story ++ rest) = front ++ [.output y]) ∧
      (outputs front).length + 1 = pulls ∧ reads front = n ∧
      (outputs story)[pulls - 1]? = some y := by
  induction h with
  | here y rest => exact ⟨[], y, fun _ => rfl, rfl, rfl, rfl⟩
  | output y _ ih =>
    obtain ⟨front, z, hs, ho, hr, hz⟩ := ih
    refine ⟨.output y :: front, z, fun rest => ?_, congrArg (· + 1) ho, hr, hz⟩
    exact congrArg (List.cons (.output y)) (hs rest)
  | read x _ ih =>
    obtain ⟨front, z, hs, ho, hr, hz⟩ := ih
    refine ⟨.read x :: front, z, fun rest => ?_, ho, ?_, hz⟩
    · rw [List.cons_append, seen_read, hs, List.cons_append]
    · rw [reads_read, hr]
  | note w _ ih =>
    obtain ⟨front, z, hs, ho, hr, hz⟩ := ih
    refine ⟨.note w :: front, z, fun rest => ?_, ho, hr, hz⟩
    rw [List.cons_append, seen_note, hs, List.cons_append]
  | applied _ ih =>
    obtain ⟨front, z, hs, ho, hr, hz⟩ := ih
    refine ⟨.applied :: front, z, fun rest => ?_, ho, hr, hz⟩
    exact congrArg (List.cons .applied) (hs rest)

/-- The output is the last thing seen of the pull that receives it. -/
theorem seen_output (h : Receives story (pulls + 1) n) {y : β}
    (hy : (outputs story)[pulls]? = some y) :
    ∃ front, seen (pulls + 1) story = front ++ [.output y] ∧ (outputs front).length = pulls ∧
      reads front = n := by
  obtain ⟨front, z, hseen, hout, hreads, hz⟩ := h.seen_eq
  obtain rfl : z = y := Option.some.inj (hz.symm.trans hy)
  have hnil := hseen []
  rw [List.append_nil] at hnil
  exact ⟨front, hnil, Nat.succ.inj hout, hreads⟩

theorem seen_isPrefix (h : Receives story pulls n) {longer : List (Happening ω α β)}
    (hp : story <+: longer) : seen pulls longer = seen pulls story := by
  obtain ⟨rest, rfl⟩ := hp
  obtain ⟨front, y, hs, -⟩ := h.seen_eq
  have hnil := hs []
  rw [List.append_nil] at hnil
  rw [hs, hnil]

theorem reads_seen (h : Receives story pulls n) : reads (seen pulls story) = n := by
  obtain ⟨front, y, hs, -, hreads, -⟩ := h.seen_eq
  rw [← List.append_nil story, hs, reads_append, hreads]
  rfl

/-- However much more is told, the output is received after as many reads. -/
theorem reads_unique (h : Receives story pulls n) {longer : List (Happening ω α β)} {m : Nat}
    (h' : Receives longer pulls m) (hp : story <+: longer ∨ longer <+: story) : m = n := by
  rw [← h.reads_seen, ← h'.reads_seen]
  rcases hp with hp | hp
  · rw [h.seen_isPrefix hp]
  · rw [h'.seen_isPrefix hp]

end Receives

/-! ## Outputs before a read -/

/-- The outputs that come before more than `n` items have been read. -/
def outputsWithin : (n : Nat) → List (Happening ω α β) → List β
  | _, [] => []
  | n, .output y :: rest => y :: outputsWithin n rest
  | _, .ended :: _ => []
  | 0, .read _ :: _ => []
  | n + 1, .read _ :: rest => outputsWithin n rest
  | n, .note _ :: rest => outputsWithin n rest
  | n, .applied :: rest => outputsWithin n rest

section Within

variable {story : List (Happening ω α β)} {k n : Nat}

theorem outputsWithin_note (w : ω) (rest : List (Happening ω α β)) :
    outputsWithin n (.note w :: rest) = outputsWithin n rest := by
  cases n <;> rfl

theorem outputsWithin_applied (rest : List (Happening ω α β)) :
    outputsWithin n (.applied :: rest) = outputsWithin n rest := by
  cases n <;> rfl

theorem outputsWithin_output (y : β) (rest : List (Happening ω α β)) :
    outputsWithin n (.output y :: rest) = y :: outputsWithin n rest := by
  cases n <;> rfl

theorem outputsWithin_ended (rest : List (Happening ω α β)) :
    outputsWithin n (.ended :: rest) = [] := by
  cases n <;> rfl

theorem outputsWithin_reads (story : List (Happening ω α β)) :
    outputsWithin (reads story) story = outputs story := by
  induction story with
  | nil => rfl
  | cons e rest ih =>
    cases e with
    | ended => exact outputsWithin_ended rest
    | note w => exact (outputsWithin_note w rest).trans ih
    | applied => exact (outputsWithin_applied rest).trans ih
    | read x =>
      rw [reads_read]
      exact ih
    | output y => exact (outputsWithin_output y rest).trans (congrArg (List.cons y) ih)

theorem Receives.le_outputsWithin {m : Nat} (h : Receives story k m) (hle : m ≤ n) :
    k ≤ (outputsWithin n story).length := by
  induction h generalizing n with
  | here y rest =>
    rw [outputsWithin_output]
    exact Nat.succ_le_succ (Nat.zero_le _)
  | output y _ ih =>
    rw [outputsWithin_output]
    exact Nat.succ_le_succ (ih hle)
  | read x _ ih =>
    obtain ⟨n, rfl⟩ : ∃ fewer, n = fewer + 1 := ⟨n - 1, by omega⟩
    exact ih (Nat.le_of_succ_le_succ hle)
  | note w _ ih =>
    rw [outputsWithin_note]
    exact ih hle
  | applied _ ih =>
    rw [outputsWithin_applied]
    exact ih hle

/-- An output that is put out before more than `n` reads is received after no more. -/
theorem exists_receives_within (hpos : 0 < k) (hk : k ≤ (outputsWithin n story).length) :
    ∃ m, m ≤ n ∧ Receives story k m := by
  obtain ⟨p, rfl⟩ : ∃ p, k = p + 1 := ⟨k - 1, by omega⟩
  induction story generalizing p n with
  | nil => cases n <;> exact absurd hk (Nat.not_succ_le_zero p)
  | cons e rest ih =>
    cases e with
    | ended =>
      rw [outputsWithin_ended] at hk
      exact absurd hk (Nat.not_succ_le_zero p)
    | note w =>
      rw [outputsWithin_note] at hk
      obtain ⟨m, hle, hm⟩ := ih p hpos hk
      exact ⟨m, hle, .note w hm⟩
    | applied =>
      rw [outputsWithin_applied] at hk
      obtain ⟨m, hle, hm⟩ := ih p hpos hk
      exact ⟨m, hle, .applied hm⟩
    | read x =>
      cases n with
      | zero => exact absurd hk (Nat.not_succ_le_zero p)
      | succ n =>
        obtain ⟨m, hle, hm⟩ := ih p hpos hk
        exact ⟨m + 1, Nat.succ_le_succ hle, .read x hm⟩
    | output y =>
      rw [outputsWithin_output] at hk
      cases p with
      | zero => exact ⟨0, Nat.zero_le n, .here y rest⟩
      | succ p =>
        obtain ⟨m, hle, hm⟩ := ih p (Nat.succ_pos p) (Nat.le_of_succ_le_succ hk)
        exact ⟨m, hle, .output y hm⟩

theorem exists_receives (hpos : 0 < k) (hk : k ≤ (outputs story).length) :
    ∃ n, Receives story k n := by
  rw [← outputsWithin_reads] at hk
  obtain ⟨n, -, hn⟩ := exists_receives_within hpos hk
  exact ⟨n, hn⟩

end Within

end ParseFlow.Pipeline
