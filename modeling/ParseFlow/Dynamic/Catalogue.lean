import ParseFlow.Dynamic.Rule

/-!
# A catalogue of small grammars

Parsers by name, with values of their own types: numbers, words, fields with a length in front, and
the comment grammars.
-/
namespace ParseFlow.Dynamic.Catalogue

open Text Pipeline

/-- The number that ASCII digits write, if it is at most `limit`. -/
def number? (limit : Nat) (text : String) : Option Nat :=
  let digits := text.toList
  if digits.isEmpty || !digits.all isAsciiDigit then none
  else
    let n := digits.foldl (fun n c => 10 * n + (c.toNat - 48)) 0
    if n ≤ limit then some n else none

/-- Without blanks around it and in small letters. -/
def normalWord (text : String) : String := String.ofList (lower (trim text.toList))

abbrev Note := Empty

/-- Single digits as numbers, each once and in order. -/
def numbers : Transducer Note String Nat :=
  .compose (.compose (.map "parse" fun s => (number? (UInt32.size - 1) s).getD 0) .unique) .sort

/-- Items with their indexes. -/
def indexed : Transducer Note Char (Nat × Char) := .enumerate

/-- Words in normal form, each once. -/
def distinctWords : Transducer Note String String := .compose (.map "trim" normalWord) .unique

/-- A port number outside the privileged range. -/
def port : Transducer Note String Nat :=
  .compose (.flatMap "parse" fun s => (number? (UInt16.size - 1) s).toList)
    (.filter "unprivileged" fun n => 1024 ≤ n)

/-- The length of a text, if it is even. -/
def evenLength : Transducer Note String Nat :=
  .compose (.map "len" String.utf8ByteSize) (.filter "even" fun n => n % 2 == 0)

/-- As many characters as a digit says, as text. -/
def counted (digit : Char) : Parser Char String :=
  let n := digit.toNat - 48
  match Parser.any.repeat n n with
  | .ok p => p.map "collect" String.ofList
  | .error _ => Parser.string ""

/-- The rest of the text. -/
def rest : Parser Char String :=
  Parser.custom "rest" fun input => .success input.text (input.advance input.len)

def digit : Parser Char String := .longest (.ofSource "\\d")

def digits : Parser Char String := .longest (.ofSource "\\d+")

def word : Parser Char String := .longest (.ofSource "[a-z]+")

def blanks : Parser Char String := .longest (.ofSource "\\s*")

def anyChar : Parser Char Char := .any

def atEnd : Parser Char Unit := .end

/-- The grammar of the given name, if there is one. -/
def find? (name : String) : Option (Rule Char) :=
  let string := Parser.string
  match name with
  | "digits" => some (.native digit.many)
  | "digits1" => some (.native digit.many1)
  | "digits_2_4" => (digit.repeat 2 4).toOption.map .native
  | "then" => some (.native ((string "a").then digit))
  | "parens" => some (.native (digit.many.between (string "(") (string ")")))
  | "hash" => some (.native (digit.precededBy (string "#")))
  | "semi" => some (.native (digit.followedBy (string ";")))
  | "list" => some (.native (Parser.list [string "a", digit, string "b"]))
  | "pair" => some (.native (Parser.pair (string "a") anyChar))
  | "triple" => some (.native (Parser.triple anyChar digit atEnd))
  | "tuple" => (Parser.tuple 2 [digit, digit]).toOption.map .native
  | "ends" => some (.native atEnd.many)
  | "ends1" => some (.native atEnd.many1)
  | "nested" =>
    some (.native ((word.many1.between (string "[") (string "]")).followedBy blanks).many)
  | "kv" =>
    let entry := Parser.pair (word.followedBy (string "=")) digits
    some (.native (entry.followedBy (.longest (.ofSource ",?"))).many)
  | "count" => some (.native (digit.many.map "count" List.length))
  | "numbers" => some (.native ((digit.followedBy (string ",")).many.pipe numbers))
  | "words" => some (.native ((Parser.longest (.ofSource "\\s*\\w+")).many.pipe distinctWords))
  | "port" => some (.native (digits.thread port))
  | "even_len" => some (.native ((string "ab").thread evenLength))
  | "field" => some (.native ((Parser.satisfy "digit" isAsciiDigit).flatMap "field" counted))
  | "header" => some (.native ((string "#include").then (.longest (.ofSource "\\s*<[^>]+>"))))
  | "vowel" => some (.native (anyChar.filter "vowel" ("aeiou".toList.contains ·)))
  | "indexed" => some (.native (anyChar.many.pipe indexed))
  | "windows" => (Transducer.windowed ⟨2, 1, false⟩).toOption.map fun (pairs : Transducer Note _ _) =>
    .native (anyChar.many.pipe pairs)
  | "rest" => some (.native rest)
  | "comment" => some (.native Grammar.comment)
  | "comments" => some (.native Grammar.comments)
  | "doc" => some (.native Grammar.doc)
  | "docs" => some (.native (Grammar.doc.followedBy blanks).many)
  | _ => none

end ParseFlow.Dynamic.Catalogue
