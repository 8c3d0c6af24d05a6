import ParseFlow.Text.CaseRuns
import ParseFlow.Text.Category

/-!
# Capitals and small letters

Case folding identifies the letters that differ by case only. Lowering and raising a text map its
characters one by one, except that a capital sigma ending a word becomes the final small one.
-/
namespace ParseFlow.Text

/-- Where the run moves a code point, if it moves it. -/
def CaseRun.target? (run : CaseRun) (code : Nat) : Option Nat :=
  if run.first ≤ code && code ≤ run.last && (code - run.first) % run.stride == 0 then
    some (Int.toNat (code + run.shift))
  else none

/-- The code point that the run moves to `code`, if there is one. -/
def CaseRun.source? (run : CaseRun) (code : Nat) : Option Nat :=
  let origin := Int.toNat (code - run.shift)
  if run.target? origin == some code then some origin else none

def mapCode (runs : List CaseRun) (code : Nat) : Nat :=
  (runs.findSome? (·.target? code)).getD code

/-- The simple case folding of a character. -/
def fold (c : Char) : Char := Char.ofNat (mapCode foldRuns c.toNat)

/-- The characters that differ from `c` by case only, `c` among them. -/
def caseVariants (c : Char) : List Char :=
  let folded := fold c
  c :: folded :: (foldRuns.filterMap (·.source? folded.toNat)).map Char.ofNat

/-- The small form of a character standing by itself. -/
def lowerChar (c : Char) : List Char :=
  if c.toNat == 0x130 then ['i', Char.ofNat 0x307] else [Char.ofNat (mapCode lowerRuns c.toNat)]

/-- The capital form of a character. -/
def upperChar (c : Char) : List Char :=
  match longCapitals.find? (·.1 == c.toNat) with
  | some row => row.2.map Char.ofNat
  | none => [Char.ofNat (mapCode upperRuns c.toNat)]

/-- Letters that have case without being capitals or small letters. -/
def otherCased : Intervals :=
  [(0xaa, 0xaa), (0xba, 0xba), (0x2b0, 0x2b8), (0x2c0, 0x2c1), (0x2e0, 0x2e4), (0x345, 0x345),
  (0x37a, 0x37a), (0x10fc, 0x10fc), (0x1d2c, 0x1d6a), (0x1d78, 0x1d78), (0x1d9b, 0x1dbf),
  (0x2071, 0x2071), (0x207f, 0x207f), (0x2090, 0x209c), (0x2160, 0x217f), (0x24b6, 0x24e9),
  (0x2c7c, 0x2c7d), (0xa69c, 0xa69d), (0xa770, 0xa770), (0xa7f2, 0xa7f4), (0xa7f8, 0xa7f9),
  (0xab5c, 0xab5f), (0xab69, 0xab69), (0x10780, 0x10780), (0x10783, 0x10785), (0x10787, 0x107b0),
  (0x107b2, 0x107ba), (0x1e030, 0x1e06d), (0x1f130, 0x1f149), (0x1f150, 0x1f169),
  (0x1f170, 0x1f189)]

/-- Punctuation that a word may hold without ending there. -/
def otherCaseIgnorable : Intervals :=
  [(0x27, 0x27), (0x2e, 0x2e), (0x3a, 0x3a), (0xb7, 0xb7), (0x387, 0x387), (0x55f, 0x55f),
  (0x5f4, 0x5f4), (0x2018, 0x2019), (0x2024, 0x2024), (0x2027, 0x2027), (0xfe13, 0xfe13),
  (0xfe52, 0xfe52), (0xfe55, 0xfe55), (0xff07, 0xff07), (0xff0e, 0xff0e), (0xff1a, 0xff1a)]

def isCased (c : Char) : Bool := (category c).isCasedLetter || otherCased.contains c.toNat

def isCaseIgnorable (c : Char) : Bool :=
  match category c with
  | .mn | .me | .cf | .lm | .sk => true
  | _ => otherCaseIgnorable.contains c.toNat

/-- Whether the first character that is not ignored has case. -/
def meetsCased (text : List Char) : Bool :=
  match text.dropWhile isCaseIgnorable with
  | c :: _ => isCased c
  | [] => false

/-- Lowers a text; `before` is what precedes it, nearest character first. -/
def lowerAfter (before : List Char) : List Char → List Char
  | [] => []
  | c :: rest =>
    let small :=
      if c.toNat == 0x3a3 && meetsCased before && !meetsCased rest then [Char.ofNat 0x3c2]
      else lowerChar c
    small ++ lowerAfter (c :: before) rest

def lower (text : List Char) : List Char := lowerAfter [] text

def upper (text : List Char) : List Char := text.flatMap upperChar

end ParseFlow.Text
