import ParseFlow.Text.Category
import ParseFlow.Value.Basic

/-!
# Named functions on dynamic values

The functions that a pipeline or parser described as data may use. Arithmetic wraps at 64 bits, and
a function leaves values alone that it is not about.
-/
namespace ParseFlow.Value

open Text

/-- The integer of 64 bits that a number wraps to. -/
def wrap64 (n : Int) : Int := n.bmod UInt64.size

/-- The integer a value is, and zero for any other value. -/
def toInt : Value → Int
  | int n => n
  | _ => 0

/-- Bytes of text and members of a list or tuple; zero for any other value. -/
def len : Value → Nat
  | str s => s.utf8ByteSize
  | char c => c.utf8Size
  | list items => items.length
  | tuple fields => fields.length
  | _ => 0

/-- Applies a function to integers only. -/
def onInt (f : Int → Int) : Value → Value
  | int n => int (wrap64 (f n))
  | v => v

/-- The number that 1 to 18 digits, or one, write; zero for anything else. -/
def parseNumber : Value → Nat
  | str s =>
    let digits := s.toList
    if 1 ≤ digits.length && digits.length ≤ 18 && digits.all isAsciiDigit then
      digits.foldl (fun n c => 10 * n + (c.toNat - 48)) 0
    else 0
  | char c => if isAsciiDigit c then c.toNat - 48 else 0
  | _ => 0

/-- The capital of an ASCII letter. -/
def asciiUpper (c : Char) : Char :=
  if 97 ≤ c.toNat && c.toNat ≤ 122 then Char.ofNat (c.toNat - 32) else c

/-- The text of a value that is joined to others. -/
def joined : Value → String
  | str s => s
  | char c => String.singleton c
  | _ => "?"

def reversed : Value → Value
  | str s => str (String.ofList s.toList.reverse)
  | list items => list items.reverse
  | tuple fields => tuple fields.reverse
  | v => v

/-- Strips spaces off both ends of a string. -/
def stripSpaces : Value → Value
  | str s => str (String.ofList
      ((s.toList.dropWhile (· == ' ')).reverse.dropWhile (· == ' ')).reverse)
  | v => v

/-- Functions from values to values. -/
def transform? : String → Option (Value → Value)
  | "id" => some id
  | "double" => some (onInt (· * 2))
  | "inc" => some (onInt (· + 1))
  | "neg" => some (onInt (-·))
  | "square" => some (onInt fun n => n * n)
  | "len" => some fun v => int v.len
  | "upper" => some fun
    | str s => str (String.ofList (s.toList.map asciiUpper))
    | char c => char (asciiUpper c)
    | v => v
  | "trim" => some stripSpaces
  | "rev" => some reversed
  | "parse" => some fun v => int v.parseNumber
  | "join" => some fun v => str (String.join (v.elements.map joined))
  | "first" => some fun v => v.elements.head?.getD unit
  | "last" => some fun v => v.elements.getLast?.getD unit
  | "sum" => some fun v => int (v.elements.foldl (fun n x => wrap64 (n + x.toInt)) 0)
  | "wrap" => some fun v => list [v]
  | "unit" => some fun _ => unit
  | _ => none

/-- A test of integers that fails for any other value. -/
def ofInt (test : Int → Bool) : Value → Bool
  | int n => test n
  | _ => false

/-- A test of characters that fails for any other value. -/
def ofChar (test : Char → Bool) : Value → Bool
  | char c => test c
  | _ => false

/-- Tests of values. -/
def predicate? : String → Option (Value → Bool)
  | "true" => some fun _ => true
  | "false" => some fun _ => false
  | "even" => some (ofInt fun n => n % 2 == 0)
  | "odd" => some (ofInt fun n => n % 2 != 0)
  | "positive" => some (ofInt fun n => 0 < n)
  | "digit" => some (ofChar isAsciiDigit)
  | "alpha" => some (ofChar isAsciiLetter)
  | "space" => some (ofChar fun c => [' ', '\t', '\r', '\n'].contains c)
  | "vowel" => some (ofChar fun c => ['a', 'e', 'i', 'o', 'u'].contains c)
  | "ascii" => some (ofChar isAscii)
  | "empty" => some fun v => v.len == 0
  | "nonempty" => some fun v => v.len != 0
  | "short" => some fun v => v.len < 4
  | _ => none

/-- Comparisons with a fixed value. -/
def comparison? (name : String) (x : Value) : Option (Value → Bool) :=
  match name with
  | "lt" => some fun v => compare v x == .lt
  | "gt" => some fun v => compare v x == .gt
  | "eq" => some fun v => compare v x == .eq
  | "ne" => some fun v => compare v x != .eq
  | _ => none

/-- Functions from values to lists of values. -/
def expansion? : String → Option (Value → List Value)
  | "none" => some fun _ => []
  | "self" => some fun v => [v]
  | "twice" => some fun v => [v, v]
  | "items" => some elements
  | "chars" => some fun
    | str s => s.toList.map char
    | v => [v]
  | "range" => some fun v =>
    (List.range (min (max v.toInt 0) 64).toNat).map fun (n : Nat) => int n
  | "digit" => some fun
    | char c => if isAsciiDigit c then [int (c.toNat - 48 : Nat)] else []
    | _ => []
  | _ => none

/-- Orders of values. -/
def order? : String → Option (Value → Value → Ordering)
  | "asc" => some compare
  | "desc" => some fun v w => compare w v
  | "len" => some fun v w => compare v.len w.len
  | "mod3" => some fun v w => compare (v.toInt % 3) (w.toInt % 3)
  | "equal" => some fun _ _ => .eq
  | _ => none

/-- Functions that take a value into an accumulation. -/
def reducer? : String → Option (Value → Value → Value)
  | "sum" => some fun acc x => int (wrap64 (acc.toInt + x.toInt))
  | "prod" => some fun acc x => int (wrap64 (acc.toInt * x.toInt))
  | "max" => some fun acc x => if compare x acc == .gt then x else acc
  | "count" => some fun acc _ => int (wrap64 (acc.toInt + 1))
  | "last" => some fun _ x => x
  | "push" => some fun acc x =>
    match acc with
    | list items => list (items ++ [x])
    | acc => list [acc, x]
  | "concat" => some fun
    | str s, str t => str (s ++ t)
    | str s, char c => str (s.push c)
    | acc, _ => acc
  | _ => none

end ParseFlow.Value
