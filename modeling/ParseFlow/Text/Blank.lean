import ParseFlow.Text.Runs

/-!
# White space

The characters that count as blank, and trimming them off either end of a text.
-/
namespace ParseFlow.Text

/-- The property White_Space. -/
def blanks : Intervals :=
  [(0x9, 0xd), (0x20, 0x20), (0x85, 0x85), (0xa0, 0xa0), (0x1680, 0x1680), (0x2000, 0x200a),
  (0x2028, 0x2029), (0x202f, 0x202f), (0x205f, 0x205f), (0x3000, 0x3000)]

def isBlank (c : Char) : Bool := blanks.contains c.toNat

variable {α : Type}

/-- The list without its longest tail of items accepted by `p`. -/
def dropEndWhile (p : α → Bool) : List α → List α
  | [] => []
  | x :: xs =>
    match dropEndWhile p xs with
    | [] => if p x then [] else [x]
    | y :: ys => x :: y :: ys

/-- The text without leading blanks. -/
def trimStart (text : List Char) : List Char := text.dropWhile isBlank

/-- The text without trailing blanks. -/
def trimEnd (text : List Char) : List Char := dropEndWhile isBlank text

/-- The text without blanks at either end. -/
def trim (text : List Char) : List Char := trimEnd (trimStart text)

end ParseFlow.Text
