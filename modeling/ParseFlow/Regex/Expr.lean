import ParseFlow.Regex.CharClass

/-!
# Regular expressions as residuals

An expression says what is still to be matched. At a position it offers an ordered list of
alternatives: to stop there, or to take a character of some class and go on with another expression.
Earlier alternatives are preferred. Inside a repetition an empty iteration ends the repetition at the
place it has in the order.
-/
namespace ParseFlow.Regex

open Text

/-- Which characters count as word characters at a boundary. -/
inductive WordKind where
  | unicode
  | ascii
  deriving DecidableEq, Repr

/-- A condition on the characters around a position. -/
inductive Look where
  | textStart
  | textEnd
  | lineStart
  | lineEnd
  | anyLineStart
  | anyLineEnd
  | boundary (kind : WordKind)
  | noBoundary (kind : WordKind)
  | wordStart (kind : WordKind)
  | wordEnd (kind : WordKind)
  | wordStartHalf (kind : WordKind)
  | wordEndHalf (kind : WordKind)
  deriving DecidableEq, Repr

/-- The characters around a position. -/
structure Surroundings where
  before : Option Char
  after : Option Char
  deriving DecidableEq, Repr

def WordKind.holds (kind : WordKind) : Option Char → Bool
  | none => false
  | some c =>
    match kind with
    | unicode => isWord c
    | ascii => isAsciiWord c

namespace Look

def holds (look : Look) (s : Surroundings) : Bool :=
  match look with
  | textStart => s.before.isNone
  | textEnd => s.after.isNone
  | lineStart => s.before.isNone || s.before == some '\n'
  | lineEnd => s.after.isNone || s.after == some '\n'
  | anyLineStart =>
    s.before.isNone || s.before == some '\n' || (s.before == some '\r' && s.after != some '\n')
  | anyLineEnd =>
    s.after.isNone || s.after == some '\r' || (s.after == some '\n' && s.before != some '\r')
  | boundary k => k.holds s.before != k.holds s.after
  | noBoundary k => k.holds s.before == k.holds s.after
  | wordStart k => !k.holds s.before && k.holds s.after
  | wordEnd k => k.holds s.before && !k.holds s.after
  | wordStartHalf k => !k.holds s.before
  | wordEndHalf k => !k.holds s.after

/-- Whether the condition is about words of all scripts. -/
def isUnicodeBoundary : Look → Bool
  | boundary k | noBoundary k | wordStart k | wordEnd k | wordStartHalf k | wordEndHalf k =>
    k == .unicode
  | _ => false

end Look

inductive Expr where
  | empty
  | set (c : CharClass)
  | look (l : Look)
  /-- Remembers the position in a slot. -/
  | mark (slot : Nat)
  | seq (a b : Expr)
  | alt (a b : Expr)
  | opt (greedy : Bool) (body : Expr)
  /-- At least one iteration. -/
  | plus (greedy : Bool) (body : Expr)
  /-- What follows an iteration: further ones or none. -/
  | more (greedy : Bool) (body : Expr)
  deriving DecidableEq, Repr

/-- One way to go on: the slots marked first, and then a character to take or nothing. -/
structure Alternative where
  marks : List Nat
  move : Option (CharClass × Expr)

namespace Alternative

/-- To stop at once. -/
def stop : Alternative := ⟨[], none⟩

def isStop (a : Alternative) : Bool := a.move.isNone

def isMove (a : Alternative) : Bool := a.move.isSome

/-- The alternative after more marks. -/
def after (marks : List Nat) (a : Alternative) : Alternative := ⟨marks ++ a.marks, a.move⟩

end Alternative

namespace Expr

/-- The first expression, then the second. -/
def andThen : Expr → Expr → Expr
  | empty, b => b
  | a, b => seq a b

/-- The first list before the second; to stop a second time is no alternative of its own. -/
def prefer (xs ys : List Alternative) : List Alternative :=
  xs ++ if xs.any (·.isStop) then ys.filter (·.isMove) else ys

/-- Stopping comes last for a greedy repetition and first for a lazy one. -/
def arrange (greedy : Bool) (others : List Alternative) : List Alternative :=
  if greedy then prefer others [.stop] else prefer [.stop] others

/-- Goes on with another expression after the character that is taken. -/
def continued (rest : Expr) (a : Alternative) : Alternative :=
  ⟨a.marks, a.move.map fun m => (m.1, m.2.andThen rest)⟩

/-- The alternatives at a position, the preferred ones first. -/
def alternatives (s : Surroundings) : Expr → List Alternative
  | empty => [.stop]
  | set c => [⟨[], some (c, empty)⟩]
  | look l => if l.holds s then [.stop] else []
  | mark slot => [⟨[slot], none⟩]
  | seq a b =>
    (a.alternatives s).flatMap fun x =>
      match x.move with
      | none => (b.alternatives s).map (·.after x.marks)
      | some _ => [continued b x]
  | alt a b => prefer (a.alternatives s) (b.alternatives s)
  | opt greedy body => arrange greedy (body.alternatives s)
  | plus greedy body => (body.alternatives s).map (continued (more greedy body))
  | more greedy body =>
    arrange greedy (((body.alternatives s).filter (·.isMove)).map (continued (more greedy body)))

/-- Whether a condition about words of all scripts occurs. -/
def hasUnicodeBoundary : Expr → Bool
  | look l => l.isUnicodeBoundary
  | seq a b | alt a b => a.hasUnicodeBoundary || b.hasUnicodeBoundary
  | opt _ a | plus _ a | more _ a => a.hasUnicodeBoundary
  | empty | set _ | mark _ => false

/-! ## Repetitions -/

/-- `n` copies, one after the other. -/
def times (body : Expr) : Nat → Expr
  | 0 => empty
  | 1 => body
  | n + 1 => seq body (times body n)

/-- At most `n` copies, each wanted only after the one before. -/
def upTo (greedy : Bool) (body : Expr) : Nat → Expr
  | 0 => empty
  | 1 => opt greedy body
  | n + 1 => opt greedy (seq body (upTo greedy body n))

/-- Any number of copies. -/
def star (greedy : Bool) (body : Expr) : Expr := opt greedy (plus greedy body)

/-- At least `min` copies. -/
def atLeast (greedy : Bool) (body : Expr) : Nat → Expr
  | 0 => star greedy body
  | 1 => plus greedy body
  | n + 1 => seq (times body n) (plus greedy body)

/-- Between `min` and `max` copies. -/
def between (greedy : Bool) (body : Expr) (min max : Nat) : Expr :=
  (times body min).andThen (upTo greedy body (max - min))

end Expr
end ParseFlow.Regex
