import ParseFlow.Regex.Property

/-!
# Classes of characters

A class is kept as it was written, so that two occurrences of one class are equal, and is asked
about one character at a time.
-/
namespace ParseFlow.Regex

open Text

inductive CharClass where
  | empty
  | any
  | single (c : Char)
  | range (first last : Char)
  | digit
  | word
  | blank
  | property (p : Property)
  | union (a b : CharClass)
  | intersection (a b : CharClass)
  | difference (a b : CharClass)
  | symmetricDifference (a b : CharClass)
  | complement (a : CharClass)
  /-- Also the characters that differ by case only. -/
  | folded (a : CharClass)
  /-- Also the ASCII letters that differ by case only. -/
  | asciiFolded (a : CharClass)
  deriving DecidableEq, Repr

/-- The ASCII letter that differs by case only, or the character itself. -/
def otherAsciiCase (c : Char) : Char :=
  if 65 ≤ c.toNat && c.toNat ≤ 90 then Char.ofNat (c.toNat + 32)
  else if 97 ≤ c.toNat && c.toNat ≤ 122 then Char.ofNat (c.toNat - 32)
  else c

namespace CharClass

def contains : CharClass → Char → Bool
  | empty, _ => false
  | any, _ => true
  | single d, c => c == d
  | range first last, c => first.toNat ≤ c.toNat && c.toNat ≤ last.toNat
  | digit, c => isDecimalDigit c
  | word, c => isWord c
  | blank, c => isBlank c
  | property p, c => p.holds c
  | union a b, c => a.contains c || b.contains c
  | intersection a b, c => a.contains c && b.contains c
  | difference a b, c => a.contains c && !b.contains c
  | symmetricDifference a b, c => a.contains c != b.contains c
  | complement a, c => !a.contains c
  | folded a, c => (caseVariants c).any a.contains
  | asciiFolded a, c => a.contains c || a.contains (otherAsciiCase c)

def ofRanges (ranges : List (Char × Char)) : CharClass :=
  ranges.foldl (fun a r => union a (range r.1 r.2)) empty

def asciiDigit : CharClass := range '0' '9'

def asciiWord : CharClass := ofRanges [('0', '9'), ('A', 'Z'), ('_', '_'), ('a', 'z')]

def asciiBlank : CharClass := ofRanges [('\t', '\r'), (' ', ' ')]

/-- The classes named between colons in brackets. -/
def ofAsciiName? : String → Option CharClass
  | "alnum" => some (ofRanges [('0', '9'), ('A', 'Z'), ('a', 'z')])
  | "alpha" => some (ofRanges [('A', 'Z'), ('a', 'z')])
  | "ascii" => some (range '\x00' '\x7f')
  | "blank" => some (ofRanges [('\t', '\t'), (' ', ' ')])
  | "cntrl" => some (ofRanges [('\x00', '\x1f'), ('\x7f', '\x7f')])
  | "digit" => some asciiDigit
  | "graph" => some (range '!' '~')
  | "lower" => some (range 'a' 'z')
  | "print" => some (range ' ' '~')
  | "punct" => some (ofRanges [('!', '/'), (':', '@'), ('[', '\x60'), ('\x7b', '~')])
  | "space" => some asciiBlank
  | "upper" => some (range 'A' 'Z')
  | "word" => some asciiWord
  | "xdigit" => some (ofRanges [('0', '9'), ('A', 'F'), ('a', 'f')])
  | _ => none

/-- All characters but those of a line break. -/
def notLineFeed : CharClass := complement (single '\n')

def notLineBreak : CharClass := complement (union (single '\n') (single '\r'))

end CharClass
end ParseFlow.Regex
