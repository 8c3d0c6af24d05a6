import ParseFlow.Text.CategoryRuns
import ParseFlow.Text.AlphabeticMarks

/-!
# General categories and the character classes built from them

Letters, marks, word characters and printable characters are all read off the general category,
with the few code points the standard adds by hand. ASCII is decided without the table.
-/
namespace ParseFlow.Text

namespace Category

/-- The category of a code point. -/
def ofCode (code : Nat) : Category :=
  match casedPairs.find? fun i => i.1 ≤ code && code ≤ i.2 with
  | some i => if (code - i.1) % 2 = 0 then .lu else .ll
  | none => (runs.find? code).getD .cn

def isLetter : Category → Bool
  | lu | ll | lt | lm | lo => true
  | _ => false

def isCasedLetter : Category → Bool
  | lu | ll | lt => true
  | _ => false

def isMark : Category → Bool
  | mn | mc | me => true
  | _ => false

def isNumber : Category → Bool
  | nd | nl | no => true
  | _ => false

def isPunctuation : Category → Bool
  | pc | pd | ps | pe | pi | pf | po => true
  | _ => false

def isSymbol : Category → Bool
  | sm | sc | sk | so => true
  | _ => false

def isSeparator : Category → Bool
  | zs | zl | zp => true
  | _ => false

def isOther : Category → Bool
  | cc | cf | cs | co | cn => true
  | _ => false

end Category

/-- The general category of a character. -/
def category (c : Char) : Category := Category.ofCode c.toNat

/-- Circled and squared capitals, which are symbols that count as letters. -/
def letterSymbols : Intervals :=
  [(0x24b6, 0x24e9), (0x1f130, 0x1f149), (0x1f150, 0x1f169), (0x1f170, 0x1f189)]

/-- Capitals `A` to `Z` and small letters `a` to `z`. -/
def isAsciiLetter (c : Char) : Bool :=
  (65 ≤ c.toNat && c.toNat ≤ 90) || (97 ≤ c.toNat && c.toNat ≤ 122)

/-- The digits `0` to `9`. -/
def isAsciiDigit (c : Char) : Bool := 48 ≤ c.toNat && c.toNat ≤ 57

def isAscii (c : Char) : Bool := c.toNat < 128

/-- ASCII letters and digits and the underscore. -/
def isAsciiWord (c : Char) : Bool := isAsciiLetter c || isAsciiDigit c || c == '_'

/-- The property Alphabetic. -/
def isAlphabetic (c : Char) : Bool :=
  if isAscii c then isAsciiLetter c
  else (category c).isLetter || category c == .nl || alphabeticMarks.contains c.toNat
    || letterSymbols.contains c.toNat

/-- Decimal digits of every script. -/
def isDecimalDigit (c : Char) : Bool :=
  if isAscii c then isAsciiDigit c else category c == .nd

/-- Characters of words: letters, marks, decimal digits, connectors and joiners. -/
def isWord (c : Char) : Bool :=
  if isAscii c then isAsciiWord c
  else (category c).isLetter || (category c).isMark || category c == .nd || category c == .nl
    || category c == .pc || letterSymbols.contains c.toNat || c.toNat == 0x200c || c.toNat == 0x200d

/-- Spacing marks and others that extend the character before them, beside all nonspacing marks. -/
def extenders : Intervals :=
  [(0x9be, 0x9be), (0x9d7, 0x9d7), (0xb3e, 0xb3e), (0xb57, 0xb57), (0xbbe, 0xbbe), (0xbd7, 0xbd7),
  (0xcc2, 0xcc2), (0xcd5, 0xcd6), (0xd3e, 0xd3e), (0xd57, 0xd57), (0xdcf, 0xdcf), (0xddf, 0xddf),
  (0x1b35, 0x1b35), (0x200c, 0x200c), (0x302e, 0x302f), (0xff9e, 0xff9f), (0x1133e, 0x1133e),
  (0x11357, 0x11357), (0x114b0, 0x114b0), (0x114bd, 0x114bd), (0x115af, 0x115af), (0x11930, 0x11930),
  (0x1d165, 0x1d165), (0x1d16e, 0x1d172), (0xe0020, 0xe007f)]

/-- Characters that extend the one before them. -/
def isExtender (c : Char) : Bool :=
  if isAscii c then false
  else category c == .mn || category c == .me || extenders.contains c.toNat

/-- Characters with a visible form; of the separators only the space. -/
def isPrintable (c : Char) : Bool :=
  if isAscii c then 32 ≤ c.toNat && c.toNat < 127
  else !((category c).isOther || (category c).isSeparator)

end ParseFlow.Text
