import ParseFlow.Regex.Expr

/-!
# Searches

A search keeps the expressions that are still open, in order of preference, and moves them on
character by character. The longest search follows all of them to the last place where one may stop.
The preferred search drops, wherever one may stop, all that are less preferred.
-/
namespace ParseFlow.Regex

open Text

/-! ## The longest match -/

/-- What a longest search comes to, in numbers of characters. -/
inductive Longest where
  | found (length : Nat)
  | missing
  | gaveUp
  deriving DecidableEq, Repr

def Longest.ofBest : Option Nat → Longest
  | some length => found length
  | none => missing

/-- The list without later copies of its members. -/
def withoutCopies {α : Type} [DecidableEq α] : List α → List α → List α
  | _, [] => []
  | seen, x :: xs => if x ∈ seen then withoutCopies seen xs else x :: withoutCopies (x :: seen) xs

/-- The expressions open after a character, given the alternatives open before it. -/
def movedBy (c : Char) (alternatives : List Alternative) : List Expr :=
  withoutCopies [] (alternatives.filterMap fun a =>
    match a.move with
    | some (set, rest) => if set.contains c then some rest else none
    | none => none)

/-- Follows all open expressions. `wary` searches give up at a character that is not ASCII as long as
anything is open or a match has just ended, even if they have seen a match. -/
def longestFrom (wary : Bool) :
    (before : Option Char) → (states : List Expr) → (justStopped : Bool) → (passed : Nat) →
    (best : Option Nat) → List Char → Longest
  | before, states, _, passed, best, [] =>
    let alternatives := states.flatMap (Expr.alternatives ⟨before, none⟩)
    .ofBest (if alternatives.any (·.isStop) then some passed else best)
  | before, states, justStopped, passed, best, c :: rest =>
    if states.isEmpty && !justStopped then .ofBest best
    else if wary && !isAscii c then .gaveUp
    else
      let alternatives := states.flatMap (Expr.alternatives ⟨before, some c⟩)
      let stops := alternatives.any (·.isStop)
      longestFrom wary (some c) (movedBy c alternatives) stops (passed + 1)
        (if stops then some passed else best) rest

/-- The longest match at the start of a text. Boundaries of words of all scripts are only decided on
ASCII text. -/
def Expr.longest (e : Expr) (text : List Char) : Longest :=
  longestFrom e.hasUnicodeBoundary none [e] false 0 none text

/-! ## The preferred match -/

/-- Positions remembered in slots, the latest first. -/
abbrev Slots := List (Nat × Nat)

/-- An open expression with the slots of the path that led to it. -/
structure Thread where
  expr : Expr
  slots : Slots

/-- The alternatives of all threads up to the first that stops, and the slots of that one. -/
def untilStop (position : Nat) :
    List (Slots × Alternative) → List (Slots × CharClass × Expr) × Option Slots
  | [] => ([], none)
  | (slots, a) :: rest =>
    let slots := (a.marks.map (·, position)).reverse ++ slots
    match a.move with
    | none => ([], some slots)
    | some (set, next) =>
      let (moves, stopped) := untilStop position rest
      ((slots, set, next) :: moves, stopped)

/-- Threads without those whose expression a more preferred one has. -/
def mostPreferred : List Expr → List Thread → List Thread
  | _, [] => []
  | seen, t :: ts =>
    if t.expr ∈ seen then mostPreferred seen ts else t :: mostPreferred (t.expr :: seen) ts

/-- Follows the threads that are preferred to the best match so far. -/
def preferredFrom :
    (before : Option Char) → (threads : List Thread) → (position : Nat) →
    (best : Option (Nat × Slots)) → List Char → Option (Nat × Slots)
  | _, [], _, best, _ => best
  | before, t :: ts, position, best, text =>
    let alternatives := (t :: ts).flatMap fun t =>
      (t.expr.alternatives ⟨before, text.head?⟩).map (t.slots, ·)
    let (moves, stopped) := untilStop position alternatives
    let best := match stopped with
      | some slots => some (position, slots)
      | none => best
    match text with
    | [] => best
    | c :: rest =>
      let threads := mostPreferred [] (moves.filterMap fun (slots, set, next) =>
        if set.contains c then some ⟨next, slots⟩ else none)
      preferredFrom (some c) threads (position + 1) best rest

/-- Where the preferred match that begins at the start of a text ends, with its slots. The text
begins at `position`, after the character `before`. -/
def Expr.preferred (e : Expr) (before : Option Char) (position : Nat) (text : List Char) :
    Option (Nat × Slots) :=
  preferredFrom before [⟨e, []⟩] position none text

/-! ## All matches in a text -/

/-- A match: where it begins and ends, and its slots. -/
structure Match where
  start : Nat
  stop : Nat
  slots : Slots
  deriving DecidableEq, Repr

/-- The position last remembered in a slot. -/
def Match.slot? (m : Match) (slot : Nat) : Option Nat := m.slots.lookup slot

/-- The group numbered `n`, as start and stop. -/
def Match.group? (m : Match) (n : Nat) : Option (Nat × Nat) :=
  match m.slot? (2 * n), m.slot? (2 * n + 1) with
  | some start, some stop => some (start, stop)
  | _, _ => none

/-- The matches in a text, left to right and without overlap. While `position` is before `resume` the
text belongs to the match before; an empty match is not reported where the match before ended. -/
def matchesFrom (e : Expr) :
    (before : Option Char) → (position resume : Nat) → (lastStop : Option Nat) → List Char → List Match
  | before, position, resume, lastStop, text =>
    let found :=
      if position < resume then none
      else
        match e.preferred before position text with
        | some (stop, slots) =>
          if stop = position && lastStop == some position then none
          else some (Match.mk position stop slots)
        | none => none
    let resume := match found with
      | some m => max resume (max m.stop (position + 1))
      | none => resume
    let lastStop := match found with
      | some m => some m.stop
      | none => lastStop
    found.toList ++
      match text with
      | [] => []
      | c :: rest => matchesFrom e (some c) (position + 1) resume lastStop rest

def Expr.matches (e : Expr) (text : List Char) : List Match := matchesFrom e none 0 0 none text

end ParseFlow.Regex
