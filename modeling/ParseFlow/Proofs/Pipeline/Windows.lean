import ParseFlow.Proofs.Pipeline.Composition
import ParseFlow.Proofs.Pipeline.Receiving

/-!
# Windows

Where a windowing machine stands is told by how many items it has read and how many windows it has
handed out: while it fills, its buffer is what has been read from the place of the next window on,
and while it skips, that window is finished and the place of the one after it is still ahead. Each
item leads from one such state to the next, and a window is handed out with the item that completes
it or, where the step goes beyond the size, with the last item that is skipped. The windows put out,
the items read for each and the items held back all follow from this one step.
-/
namespace ParseFlow.Pipeline

variable {ω α β : Type}

/-! ## Places -/

/-- The full window numbered `k`, counting from zero. -/
def windowAt (window : Window) (k : Nat) (items : List α) : List α :=
  (items.drop (k * window.step)).take window.size

section Places

variable {window : Window} {k : Nat} {items : List α}

theorem windowAt_eq_extract (window : Window) (k : Nat) (items : List α) :
    windowAt window k items =
      items.extract (k * window.step) (k * window.step + window.size) := by
  rw [List.extract_eq_take_drop, Nat.add_sub_cancel_left]
  rfl

/-- A window is settled once it has been read. -/
theorem windowAt_append (h : k * window.step + window.size ≤ items.length) (more : List α) :
    windowAt window k (items ++ more) = windowAt window k items := by
  have hd : k * window.step ≤ items.length := by omega
  have hs : window.size ≤ (items.drop (k * window.step)).length := by
    rw [List.length_drop]
    omega
  rw [windowAt, windowAt, List.drop_append_of_le_length hd, List.take_append_of_le_length hs]

theorem length_windowAt (h : k * window.step + window.size ≤ items.length) :
    (windowAt window k items).length = window.size := by
  rw [windowAt, List.length_take, List.length_drop]
  omega

/-- The full windows are those that end within the items. -/
theorem lt_fullWindows_iff (ht : 0 < window.step) {length : Nat} :
    k < fullWindows window length ↔ k * window.step + window.size ≤ length := by
  rw [fullWindows]
  split
  · omega
  · rw [Nat.lt_succ_iff, Nat.le_div_iff_mul_le ht]
    omega

theorem getElem?_cut (ht : 0 < window.step) (h : k * window.step + window.size ≤ items.length) :
    (cut window items)[k]? = some (windowAt window k items) := by
  have hk : k < fullWindows window items.length := (lt_fullWindows_iff ht).mpr h
  rw [cut, List.getElem?_append_left (by simpa using hk), List.getElem?_map,
    List.getElem?_range hk]
  rfl

end Places

/-! ## Where the machine stands -/

/-- The states reached over `items`, with what has been read of them. -/
inductive Machine.Reaches (m : Machine ω α β) (items : List α) : List α → Next m.State → Prop
  | start : Reaches m items [] m.start.next
  | item {before : List α} {x : α} {s : m.State} :
      Reaches m items before (.ask s) → before ++ [x] <+: items →
      Reaches m items (before ++ [x]) (m.feed s (some x)).next
  | finish {s : m.State} :
      Reaches m items items (.ask s) → Reaches m items items (m.feed s none).next

namespace WindowState

/-- The items a windowing machine holds, those of a finished window included. -/
def held : WindowState α → List α
  | filling buffer => buffer
  | skipping finished _ => finished

/-- The state of a windowing machine that has read the items `before` and handed out `k` windows. -/
inductive Stands (window : Window) (k : Nat) (before : List α) : WindowState α → Prop
  | filling :
      k * window.step ≤ before.length → before.length < k * window.step + window.size →
      Stands window k before (.filling (before.drop (k * window.step)))
  | skipping {left : Nat} :
      k * window.step + window.size ≤ before.length → 0 < left →
      before.length + left = (k + 1) * window.step →
      Stands window k before (.skipping (windowAt window k before) left)

namespace Stands

variable {window : Window} {k : Nat} {before : List α} {s : WindowState α}

theorem start (hs : 0 < window.size) : Stands window 0 ([] : List α) (.filling []) := by
  have h : Stands window 0 ([] : List α) (.filling (([] : List α).drop (0 * window.step))) :=
    .filling (by rw [Nat.zero_mul, List.length_nil]) (by rwa [Nat.zero_mul, Nat.zero_add])
  rwa [List.drop_nil] at h

/-- Even with the next item the buffer holds no more than a window, and neither does the machine. -/
theorem buffered_lt (hs : 0 < window.size) (h : Stands window k before s) :
    s.buffered < window.size ∧ s.held.length ≤ window.size := by
  cases h with
  | filling _ hlt =>
    show (before.drop (k * window.step)).length < _ ∧ (before.drop (k * window.step)).length ≤ _
    rw [List.length_drop]
    omega
  | skipping hle _ _ => exact ⟨hs, (length_windowAt hle).le⟩

/-- What comes of the last of the items read: it is taken in without an answer, or the next window
is handed out and nothing more has been read than had to be. -/
def Takes (window : Window) (k : Nat) (read : List α) (turn : Turn ω (List α) (WindowState α)) :
    Prop :=
  (∃ next, turn = askOn next ∧ Stands window k read next ∧
    read.length < k * window.step + max window.size window.step) ∨
  (∃ next, turn = answerThenAsk (windowAt window k read) next ∧ Stands window (k + 1) read next ∧
    read.length = k * window.step + max window.size window.step)

theorem takes_filling (ht : 0 < window.step) (hle : k * window.step ≤ before.length)
    (hlt : before.length < k * window.step + window.size) (x : α) :
    Takes window k (before ++ [x])
      (feedWindow window (.filling (before.drop (k * window.step))) (some x) : Turn ω _ _) := by
  have hnext : (k + 1) * window.step = k * window.step + window.step := Nat.succ_mul k window.step
  have hbuf : before.drop (k * window.step) ++ [x] = (before ++ [x]).drop (k * window.step) :=
    (List.drop_append_of_le_length hle).symm
  have hlen : (before ++ [x]).length = before.length + 1 := List.length_append
  rw [feedWindow, hbuf]
  generalize before ++ [x] = read at hlen ⊢
  simp only [List.length_drop]
  by_cases hfull : read.length - k * window.step < window.size
  · rw [if_pos hfull]
    exact .inl ⟨_, rfl, .filling (by omega) (by omega), by omega⟩
  · have hwhole : read.drop (k * window.step) = windowAt window k read := by
      rw [windowAt, List.take_of_length_le]
      rw [List.length_drop]
      omega
    rw [if_neg hfull]
    by_cases hstep : window.step ≤ window.size
    · have hrest : (read.drop (k * window.step)).drop window.step =
          read.drop ((k + 1) * window.step) := by rw [List.drop_drop, hnext]
      rw [if_pos hstep, hrest, hwhole]
      exact .inr ⟨_, rfl, .filling (by omega) (by omega), by omega⟩
    · rw [if_neg hstep, hwhole]
      exact .inl ⟨_, rfl, .skipping (by omega) (by omega) (by omega), by omega⟩

theorem takes_skipping (hs : 0 < window.size) {left : Nat}
    (hle : k * window.step + window.size ≤ before.length) (hpos : 0 < left)
    (hleft : before.length + left = (k + 1) * window.step) (x : α) :
    Takes window k (before ++ [x])
      (feedWindow window (.skipping (windowAt window k before) left) (some x) : Turn ω _ _) := by
  have hnext : (k + 1) * window.step = k * window.step + window.step := Nat.succ_mul k window.step
  have hlen : (before ++ [x]).length = before.length + 1 := List.length_append
  rw [← windowAt_append hle [x], feedWindow]
  generalize before ++ [x] = read at hlen ⊢
  by_cases hlast : left ≤ 1
  · -- the empty buffer is all that has been read from the place of the next window on
    have hnone : read.drop ((k + 1) * window.step) = [] := List.drop_eq_nil_of_le (by omega)
    rw [if_pos hlast, ← hnone]
    exact .inr ⟨_, rfl, .filling (by omega) (by omega), by omega⟩
  · rw [if_neg hlast]
    exact .inl ⟨_, rfl, .skipping (by omega) (by omega) (by omega), by omega⟩

/-- Every item leads from a state of a run to the next. -/
theorem takes (hs : 0 < window.size) (ht : 0 < window.step) (h : Stands window k before s) (x : α) :
    Takes window k (before ++ [x]) (feedWindow window s (some x) : Turn ω _ _) := by
  cases h with
  | filling hle hlt => exact takes_filling ht hle hlt x
  | skipping hle hpos hleft => exact takes_skipping hs hle hpos hleft x

/-- At the end of the input a window that is still being filled is short, and one that is finished
is handed out without the items that would have been skipped. -/
theorem feed_end (h : Stands window k before s) :
    (before.length < k * window.step + window.size ∧
      (feedWindow window s none : Turn ω _ _) =
        lastly (shortWindow window (before.drop (k * window.step)))) ∨
    (before.length < (k + 1) * window.step ∧
      (feedWindow window s none : Turn ω _ _) = lastly [windowAt window k before]) := by
  cases h with
  | filling _ hlt => exact .inl ⟨hlt, rfl⟩
  | skipping _ hpos hleft => exact .inr ⟨by omega, rfl⟩

/-- A full window that comes at the end of the input is one that is finished already. -/
theorem eq_zero_of_end (h : Stands window k before s) {d : Nat}
    (hd : (k + d) * window.step + window.size ≤ before.length) :
    d = 0 ∧ before.length < (k + 1) * window.step ∧
      (feedWindow window s none : Turn ω _ _) = lastly [windowAt window k before] := by
  rcases h.feed_end with ⟨hlt, -⟩ | ⟨hlt, hf⟩
  · have hk : k * window.step ≤ (k + d) * window.step :=
      Nat.mul_le_mul_right _ (Nat.le_add_right k d)
    omega
  · have hlt' : (k + d) * window.step < (k + 1) * window.step := by omega
    have hkd : k + d < k + 1 := Nat.lt_of_mul_lt_mul_right hlt'
    exact ⟨by omega, hlt, hf⟩

end Stands
end WindowState

/-! ## Runs -/

namespace Machine

variable {m : Machine ω α β} {s next : m.State} {y : β}

theorem story_askOn {x : α} (h : m.feed s (some x) = askOn next) (items : List α) :
    m.story ⟨[], .ask s⟩ (x :: items) = .read x :: m.story ⟨[], .ask next⟩ items := by
  have hs : m.story ⟨[], .ask s⟩ (x :: items) = .read x :: m.story (m.feed s (some x)) items := rfl
  rw [hs, h]
  rfl

theorem story_answerThenAsk {x : α} (h : m.feed s (some x) = answerThenAsk y next)
    (items : List α) : m.story ⟨[], .ask s⟩ (x :: items) =
      .read x :: .output y :: m.story ⟨[], .ask next⟩ items := by
  have hs : m.story ⟨[], .ask s⟩ (x :: items) = .read x :: m.story (m.feed s (some x)) items := rfl
  rw [hs, h]
  cases items <;> rfl

theorem story_lastly {ys : List β} (h : m.feed s none = lastly ys) :
    m.story ⟨[], .ask s⟩ [] = ys.map .output ++ [.ended] := by
  have hs : m.story ⟨[], .ask s⟩ [] = (m.feed s none).events.map Event.happening := rfl
  rw [hs, h, lastly, List.map_append, List.map_map]
  rfl

end Machine

/-- The machine of the operation, with its states in sight. -/
abbrev windowMachine (window : Window) : Machine ω α (List α) where
  State := WindowState α
  start := ⟨[.ready], .ask (.filling [])⟩
  feed := feedWindow window

theorem windowed_machine {window : Window} (hs : 0 < window.size) (ht : 0 < window.step) :
    (Op.windowed window hs ht : Op ω α (List α)).machine = windowMachine window :=
  rfl

section Runs

variable {window : Window} (hs : 0 < window.size) (ht : 0 < window.step)

include hs ht

/-- In all states of a run the machine stands where what it has read takes it, or is done. -/
theorem Machine.Reaches.stands {items before : List α}
    {next : Next (windowMachine window : Machine ω α (List α)).State}
    (h : (windowMachine window).Reaches items before next) :
    (∃ k, ∃ s : WindowState α, next = .ask s ∧ s.Stands window k before) ∨ next = .closed := by
  induction h with
  | start => exact .inl ⟨0, _, rfl, .start hs⟩
  | item _ _ ih =>
    rcases ih with ⟨k, _, ⟨⟩, hk⟩ | hc
    · rcases hk.takes hs ht _ with ⟨new, hf, hn, -⟩ | ⟨new, hf, hn, -⟩
      · exact .inl ⟨k, new, congrArg Turn.next hf, hn⟩
      · exact .inl ⟨k + 1, new, congrArg Turn.next hf, hn⟩
    · cases hc
  | finish _ ih =>
    rcases ih with ⟨k, _, ⟨⟩, hk⟩ | hc
    · rcases hk.feed_end with ⟨-, hf⟩ | ⟨-, hf⟩
      · exact .inr (congrArg Turn.next hf)
      · exact .inr (congrArg Turn.next hf)
    · cases hc

namespace WindowState.Stands

variable {k : Nat} {before : List α} {s : WindowState α}

/-- The end is reported once, when everything else has happened. -/
theorem story_ends (h : Stands window k before s) (items : List α) :
    ∃ front, (windowMachine window : Machine ω α (List α)).story ⟨[], .ask s⟩ items =
      front ++ [.ended] ∧ .ended ∉ front := by
  induction items generalizing k before s with
  | nil =>
    have hout : ∀ ys : List (List α),
        (.ended : Happening ω α (List α)) ∉ ys.map Happening.output := by simp
    rcases h.feed_end with ⟨-, hf⟩ | ⟨-, hf⟩
    · exact ⟨_, Machine.story_lastly hf, hout _⟩
    · exact ⟨_, Machine.story_lastly hf, hout _⟩
  | cons x items ih =>
    rcases h.takes hs ht x with ⟨next, hf, hn, -⟩ | ⟨next, hf, hn, -⟩
    · obtain ⟨front, hstory, hmem⟩ := ih hn
      rw [Machine.story_askOn hf, hstory]
      exact ⟨.read x :: front, rfl, by simpa using hmem⟩
    · obtain ⟨front, hstory, hmem⟩ := ih hn
      rw [Machine.story_answerThenAsk hf, hstory]
      exact ⟨.read x :: .output _ :: front, rfl, by simpa using hmem⟩

/-- The window that is `d` windows ahead is handed out with its last item, with the last one skipped
behind it, or at the end of the items. -/
theorem receives_story (h : Stands window k before s) {d n : Nat} {items : List α}
    (hd : (k + d) * window.step + window.size ≤ (before ++ items).length)
    (hn : before.length + n = min (before ++ items).length
      ((k + d) * window.step + max window.size window.step)) :
    Receives ((windowMachine window : Machine ω α (List α)).story ⟨[], .ask s⟩ items) (d + 1) n := by
  induction items generalizing k before s d n with
  | nil =>
    rw [List.append_nil] at hd hn
    obtain ⟨rfl, hlt, hf⟩ := h.eq_zero_of_end hd
    obtain rfl : n = 0 := by omega
    rw [Machine.story_lastly hf]
    exact .here _ _
  | cons x items ih =>
    have hlen : (before ++ [x]).length = before.length + 1 := List.length_append
    have hk : k * window.step ≤ (k + d) * window.step :=
      Nat.mul_le_mul_right _ (Nat.le_add_right k d)
    rw [List.append_cons] at hd hn
    have hle : (before ++ [x]).length ≤ (before ++ [x] ++ items).length :=
      (List.prefix_append _ _).length_le
    -- by `hread` the item counts among those to be read, whichever window is waited for
    rcases h.takes hs ht x with ⟨next, hf, hnext, hread⟩ | ⟨next, hf, hnext, hread⟩
    · obtain ⟨m, rfl⟩ : ∃ m, n = m + 1 := ⟨n - 1, by omega⟩
      rw [Machine.story_askOn hf]
      exact .read x (ih hnext hd (by omega))
    · rw [Machine.story_answerThenAsk hf]
      cases d with
      | zero =>
        rw [Nat.add_zero] at hn
        obtain rfl : n = 1 := by omega
        exact .read x (.here _ _)
      | succ d =>
        have hkd : k + (d + 1) = k + 1 + d := by omega
        rw [hkd] at hd hn hk
        obtain ⟨m, rfl⟩ : ∃ m, n = m + 1 := ⟨n - 1, by omega⟩
        exact .read x (.output _ (ih hnext hd (by omega)))

end WindowState.Stands
end Runs

/-! ## The operation -/

namespace Transducer

variable {window : Window}

theorem windowed_eq_ok (hs : 0 < window.size) (ht : 0 < window.step) :
    (windowed window : Except _ (Transducer ω α (List α))) = .ok (.op (.windowed window hs ht)) :=
  dif_pos ⟨hs, ht⟩

theorem windowed_story (hs : 0 < window.size) (ht : 0 < window.step) (items : List α) :
    (op (.windowed window hs ht) : Transducer ω α (List α)).story items =
      .applied :: (windowMachine window).story ⟨[], .ask (.filling [])⟩ items := by
  rw [story, machine, windowed_machine hs ht]
  cases items <;> rfl

theorem windowed_collect (hs : 0 < window.size) (ht : 0 < window.step) (items : List α) :
    (op (.windowed window hs ht) : Transducer ω α (List α)).collect items =
      some (cut window items) :=
  Op.collect_eq (.windowed window hs ht) items

/-- The end is reported once, when everything else has happened. -/
theorem windowed_story_ends (hs : 0 < window.size) (ht : 0 < window.step) (items : List α) :
    ∃ front, (op (.windowed window hs ht) : Transducer ω α (List α)).story items =
      front ++ [.ended] ∧ .ended ∉ front := by
  obtain ⟨front, hstory, hmem⟩ := (WindowState.Stands.start hs).story_ends hs ht items
  refine ⟨.applied :: front, ?_, by simpa using hmem⟩
  rw [windowed_story, hstory]
  rfl

theorem outputs_windowed_story (hs : 0 < window.size) (ht : 0 < window.step) (items : List α) :
    outputs ((op (.windowed window hs ht) : Transducer ω α (List α)).story items) =
      cut window items := by
  obtain ⟨front, hstory, -⟩ := windowed_story_ends (ω := ω) hs ht items
  refine outputs_story (windowed_collect hs ht items) ?_
  rw [hstory]
  exact List.mem_append_right front (List.mem_singleton_self _)

/-- The windows put out are the full ones that begin at the multiples of the step, then the short one
that begins where the next would, if it is wanted and there is anything in it. The end is reported
once, behind them all. -/
theorem windowed_outputs (hs : 0 < window.size) (ht : 0 < window.step) :
    ∃ t : Transducer ω α (List α), windowed window = .ok t ∧ ∀ items : List α,
      (∃ full, (∀ i, i < full ↔ i * window.step + window.size ≤ items.length) ∧
        t.collect items = some (
          (List.range full).map (fun i =>
            items.extract (i * window.step) (i * window.step + window.size)) ++
          if window.remainder = true ∧ window.step * full < items.length then
            [items.drop (window.step * full)]
          else [])) ∧
      ∃ front, t.story items = front ++ [.ended] ∧ .ended ∉ front := by
  refine ⟨_, windowed_eq_ok hs ht, fun items => ⟨?_, ?_⟩⟩
  · refine ⟨fullWindows window items.length, fun i => lt_fullWindows_iff ht, ?_⟩
    rw [windowed_collect, cut, Nat.mul_comm window.step]
    simp only [← windowAt_eq_extract]
    congr 2
    rw [shortWindow]
    simp
  · exact windowed_story_ends hs ht items

theorem windowed_outputs_step_past_size :
    (0 < (⟨2, 3, true⟩ : Window).size ∧ 0 < (⟨2, 3, true⟩ : Window).step) ∧
      ∃ t : Transducer Nat Nat (List Nat), windowed ⟨2, 3, true⟩ = .ok t ∧
        t.collect ([1, 2, 3, 4, 5, 6, 7] : List Nat) = some [[1, 2], [4, 5], [7]] := by
  have hs : 0 < (⟨2, 3, true⟩ : Window).size := by decide
  have ht : 0 < (⟨2, 3, true⟩ : Window).step := by decide
  obtain ⟨t, hw, hall⟩ := windowed_outputs (ω := Nat) (α := Nat) hs ht
  obtain ⟨⟨full, hfull, hout⟩, -⟩ := hall [1, 2, 3, 4, 5, 6, 7]
  obtain rfl : full = 2 := by
    have h₁ := (hfull 1).mpr (by decide)
    have h₂ := mt (hfull 2).mp (by decide)
    omega
  exact ⟨⟨hs, ht⟩, t, hw, hout⟩

/-- In every state of a run the buffer holds fewer items than a window has, so that even with the
item that is asked for it holds no more than a window; nor does a finished window that waits. The
window numbered `k`, counting from zero, is handed out when its items and those skipped behind it
have been read, or as many of these as there are. -/
theorem windowed_reads (hs : 0 < window.size) (ht : 0 < window.step) (items : List α) :
    let t : Transducer ω α (List α) := op (.windowed window hs ht)
    windowed window = .ok t ∧
    (∀ before next, t.machine.Reaches items before next →
      (∃ s : WindowState α, next = .ask s ∧ s.buffered < window.size ∧
        s.held.length ≤ window.size) ∨ next = .closed) ∧
    ∀ k, k * window.step + window.size ≤ items.length →
      (∃ front, seen (k + 1) (t.story items) = front ++
          [.output (items.extract (k * window.step) (k * window.step + window.size))] ∧
        (outputs front).length = k) ∧
      reads (seen (k + 1) (t.story items)) =
        min items.length (k * window.step + max window.size window.step) := by
  intro t
  refine ⟨windowed_eq_ok hs ht, ?_, ?_⟩
  · intro before next h
    rcases Machine.Reaches.stands hs ht h with ⟨k, s, hn, hk⟩ | hc
    · exact .inl ⟨s, hn, hk.buffered_lt hs⟩
    · exact .inr hc
  · intro k hk
    have hr : Receives (t.story items) (k + 1)
        (min items.length (k * window.step + max window.size window.step)) := by
      rw [windowed_story]
      refine .applied ((WindowState.Stands.start hs).receives_story hs ht ?_ ?_)
      · rwa [Nat.zero_add]
      · rw [List.length_nil, Nat.zero_add, Nat.zero_add, List.nil_append]
    obtain ⟨front, y, hseen, hout, hreads, hy⟩ := hr.seen_eq
    specialize hseen []
    rw [List.append_nil] at hseen
    have hwindow : (outputs (t.story items))[k]? = some (windowAt window k items) := by
      rw [outputs_windowed_story, getElem?_cut ht hk]
    have hyw : y = windowAt window k items := Option.some.inj (hy.symm.trans hwindow)
    rw [← windowAt_eq_extract, ← hyw, hseen]
    refine ⟨⟨front, rfl, by omega⟩, ?_⟩
    rw [← hreads, reads, List.countP_append]
    rfl

/-- The input ends among the items that are skipped before the first window is handed out. -/
theorem windowed_reads_end_in_skip :
    (0 < (⟨2, 5, false⟩ : Window).size ∧ 0 < (⟨2, 5, false⟩ : Window).step) ∧
      reads (seen 1 ((op (.windowed ⟨2, 5, false⟩ (by decide) (by decide)) :
        Transducer Nat Nat (List Nat)).story [1, 2, 3, 4])) = 4 := by
  have hs : 0 < (⟨2, 5, false⟩ : Window).size := by decide
  have ht : 0 < (⟨2, 5, false⟩ : Window).step := by decide
  exact ⟨⟨hs, ht⟩, ((windowed_reads hs ht [1, 2, 3, 4]).2.2 0 (by decide)).2⟩

end Transducer
end ParseFlow.Pipeline
