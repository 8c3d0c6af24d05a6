import ParseFlow.Pipeline.Run
import ParseFlow.Pipeline.Sequence
import ParseFlow.Pipeline.Stage

/-!
# Operations of a pipeline

The seventeen operations, each with its description and the machine that runs it one item at a time.
Two machines read at unexpected times: `dedupe` takes its first item while it is set up and stays one
item ahead, and a window that advances past its own end reads the items it skips before it is handed
out. What `flatMap` makes of an item may never end, and then nothing more is read.
-/
namespace ParseFlow.Pipeline

/-- An operation from items of one type to items of another, leaving notes of type `ω`. -/
inductive Op (ω : Type) : Type → Type → Type 1 where
  | map {α β : Type} (label : Label) (f : α → β) : Op ω α β
  | filter {α : Type} (label : Label) (keep : α → Bool) : Op ω α α
  | flatMap {α β : Type} (label : Label) (f : α → Items β) : Op ω α β
  | take {α : Type} (count : Nat) : Op ω α α
  | drop {α : Type} (count : Nat) : Op ω α α
  | takeWhile {α : Type} (label : Label) (keep : α → Bool) : Op ω α α
  | dropWhile {α : Type} (label : Label) (skip : α → Bool) : Op ω α α
  | windowed {α : Type} (window : Window) (size_pos : 0 < window.size)
      (step_pos : 0 < window.step) : Op ω α (List α)
  | dedupe {α : Type} [DecidableEq α] : Op ω α α
  | unique {α : Type} [DecidableEq α] : Op ω α α
  | sort {α : Type} (order : α → α → Ordering) : Op ω α α
  | sortBy {α : Type} (label : Label) (order : α → α → Ordering) : Op ω α α
  | scan {α β : Type} (label : Label) (f : β → α → β) (seed : β) (seedText : String) : Op ω α β
  | reduce {α β : Type} (label : Label) (f : β → α → β) (seed : β) (seedText : String) : Op ω α β
  | zip {α β : Type} (partner : Sequence β) (partnerText : String) : Op ω α (α × β)
  | enumerate {α : Type} : Op ω α (Nat × α)
  | inspect {α : Type} (label : Label) (observe : α → ω) : Op ω α α

variable {ω α β : Type}

/-- The description of the operation. -/
def Op.stage : Op ω α β → Stage
  | map label _ => .map label
  | filter label _ => .filter label
  | flatMap label _ => .flatMap label
  | take count => .take count
  | drop count => .drop count
  | takeWhile label _ => .takeWhile label
  | dropWhile label _ => .dropWhile label
  | windowed window _ _ => .windowed window
  | dedupe => .dedupe
  | unique => .unique
  | sort _ => .sort
  | sortBy label _ => .sortBy label
  | scan label _ _ text => .scan label text
  | reduce label _ _ text => .reduce label text
  | zip _ text => .zip text
  | enumerate => .enumerate
  | inspect label _ => .inspect label

/-! ## Machines -/

/-- The items in ascending order, equal ones in the order they came. -/
def stableSort (order : α → α → Ordering) (items : List α) : List α :=
  items.mergeSort fun a b => order a b != .gt

/-- A machine that is ready at once and then asks for input. -/
def steady {σ : Type} (initial : σ) (feed : σ → Option α → Turn ω β σ) : Machine ω α β :=
  ⟨σ, ⟨[.ready], .ask initial⟩, feed⟩

/-- Answers with the given items and then reports the end for good. -/
def lastly {σ : Type} (items : List β) : Turn ω β σ :=
  ⟨items.map (fun y => .answer (some y)) ++ [.answer none], .closed⟩

/-- Answers that the end has come and would ask again. -/
def endThenAsk {σ : Type} (state : σ) : Turn ω β σ := ⟨[.answer none], .ask state⟩

/-- Answers with one item and asks for the next. -/
def answerThenAsk {σ : Type} (y : β) (state : σ) : Turn ω β σ := ⟨[.answer (some y)], .ask state⟩

/-- Asks for the next item without an answer. -/
def askOn {σ : Type} (state : σ) : Turn ω β σ := ⟨[], .ask state⟩

/-- Where a windowing machine stands. -/
inductive WindowState (α : Type) where
  /-- It collects the items of the next window. -/
  | filling (buffer : List α)
  /-- It holds a finished window and skips items until the next may begin. -/
  | skipping (finished : List α) (left : Nat)

/-- The number of items held back for windows to come. -/
def WindowState.buffered : WindowState α → Nat
  | filling buffer => buffer.length
  | skipping _ _ => 0

def feedWindow (window : Window) : WindowState α → Option α → Turn ω (List α) (WindowState α)
  | .filling buffer, some x =>
    let buffer := buffer ++ [x]
    if buffer.length < window.size then askOn (.filling buffer)
    else if window.step ≤ window.size then answerThenAsk buffer (.filling (buffer.drop window.step))
    else askOn (.skipping buffer (window.step - window.size))
  | .filling buffer, none => lastly (if window.remainder && !buffer.isEmpty then [buffer] else [])
  | .skipping finished left, some _ =>
    if left ≤ 1 then answerThenAsk finished (.filling []) else askOn (.skipping finished (left - 1))
  | .skipping finished _, none => lastly [finished]

/-- What `flatMap` does; its state holds what is left of an item whose expansion never ends. -/
def feedFlatMap (f : α → Items β) : Option (Nat → β) → Option α → Turn ω β (Option (Nat → β))
  | none, some x =>
    match f x with
    | .listed ys => ⟨ys.map fun y => .answer (some y), .ask none⟩
    | .endless y => ⟨[], .idle (some y)⟩
  | none, none => lastly []
  | some y, _ => ⟨[.answer (some (y 0))], .idle (some fun i => y (i + 1))⟩

/-- The machine that runs the operation. -/
def Op.machine : Op ω α β → Machine ω α β
  | map _ f => steady () fun
    | _, some x => answerThenAsk (f x) ()
    | _, none => endThenAsk ()
  | filter _ keep => steady () fun
    | _, some x => if keep x then answerThenAsk x () else askOn ()
    | _, none => endThenAsk ()
  | flatMap _ f => steady none (feedFlatMap f)
  | take count =>
    { State := Nat
      start := if count = 0 then ⟨[.ready, .answer none], .closed⟩ else ⟨[.ready], .ask count⟩
      feed
        | left, some x => if left ≤ 1 then lastly [x] else answerThenAsk x (left - 1)
        | left, none => if left ≤ 1 then lastly [] else endThenAsk (left - 1) }
  | drop count => steady count fun
    | 0, some x => answerThenAsk x 0
    | left + 1, some _ => askOn left
    | _, none => endThenAsk 0
  | takeWhile _ keep => steady () fun
    | _, some x => if keep x then answerThenAsk x () else lastly []
    | _, none => endThenAsk ()
  | dropWhile _ skip => steady true fun
    | skipping, some x => if skipping && skip x then askOn true else answerThenAsk x false
    | skipping, none => endThenAsk skipping
  | windowed window _ _ => steady (.filling []) (feedWindow window)
  | dedupe =>
    { State := Option _
      start := ⟨[], .ask none⟩
      feed
        | none, some x => ⟨[.ready], .ask (some x)⟩
        | none, none => ⟨[.ready, .answer none], .closed⟩
        | some held, some x => if held = x then askOn (some held) else answerThenAsk held (some x)
        | some held, none => lastly [held] }
  | unique => steady [] fun
    | seen, some x => if x ∈ seen then askOn seen else answerThenAsk x (x :: seen)
    | seen, none => endThenAsk seen
  | sort order => steady [] fun
    | held, some x => askOn (x :: held)
    | held, none => lastly (stableSort order held.reverse)
  | sortBy _ order => steady [] fun
    | held, some x => askOn (x :: held)
    | held, none => lastly (stableSort order held.reverse)
  | scan _ f seed _ =>
    { State := _
      start := ⟨[.ready, .answer (some seed)], .ask seed⟩
      feed
        | acc, some x => answerThenAsk (f acc x) (f acc x)
        | acc, none => endThenAsk acc }
  | reduce _ f seed _ => steady seed fun
    | acc, some x => askOn (f acc x)
    | acc, none => lastly [acc]
  | zip partner _ => steady 0 fun
    | i, some x =>
      match partner.get i with
      | some y => answerThenAsk (x, y) (i + 1)
      | none => endThenAsk i
    | i, none => endThenAsk i
  | enumerate => steady 0 fun
    | i, some x => answerThenAsk (i, x) (i + 1)
    | i, none => endThenAsk i
  | inspect _ observe => steady () fun
    | _, some x => ⟨[.note (observe x), .answer (some x)], .ask ()⟩
    | _, none => endThenAsk ()

end ParseFlow.Pipeline
