import ParseFlow.Regex.Expr

/-!
# Reading regular expressions

The written form of expressions. Flags hold from where they are set to the end of the enclosing
group. Where characters are read as bytes, classes are limited to ASCII, for nothing else could be
told apart without cutting characters in two.
-/
namespace ParseFlow.Regex

open Text

/-- Why a text is not an expression. -/
inductive SyntaxError where
  | unclosedGroup
  | unopenedGroup
  | unclosedClass
  | nothingToRepeat
  | badCount
  | badEscape
  | badFlags
  | badGroupName
  | badRange
  | lookAround
  | unknownProperty
  | notText
  | tooLarge
  deriving DecidableEq, Repr

structure Flags where
  insensitive : Bool
  multiLine : Bool
  dotAll : Bool
  swapGreed : Bool
  unicode : Bool
  crlf : Bool
  spaced : Bool
  deriving DecidableEq, Repr

/-- The flags that hold at the start. -/
def Flags.initial : Flags := ⟨false, false, false, false, true, false, false⟩

structure ReaderState where
  rest : List Char
  flags : Flags
  groups : Nat
  names : List (List Char)

abbrev Reading := StateT ReaderState (Except SyntaxError)

/-! ## Characters -/

/-- Skips blanks and comments, from inside a comment if `comment` holds. -/
def skipSpaced : (comment : Bool) → List Char → List Char
  | _, [] => []
  | true, c :: rest => skipSpaced (c != '\n') rest
  | false, c :: rest =>
    if c == '#' then skipSpaced true rest
    else if isBlank c then skipSpaced false rest
    else c :: rest

namespace Reading

def fail {α : Type} (e : SyntaxError) : Reading α := throw e

def rest : Reading (List Char) := return (← get).rest

def flags : Reading Flags := return (← get).flags

def setRest (rest : List Char) : Reading Unit := modify fun s => { s with rest }

def setFlags (flags : Flags) : Reading Unit := modify fun s => { s with flags }

/-- Skips blanks and comments if the expression is spaced. -/
def skipBlanks : Reading Unit := do
  if (← flags).spaced then setRest (skipSpaced false (← rest))

/-- Goes on at `rest`, past blanks and comments if the expression is spaced. -/
def goOn (rest : List Char) : Reading Unit := do
  setRest rest
  skipBlanks

end Reading

open Reading

/-! ## Escapes -/

/-- What an escape stands for. -/
inductive Escape where
  | literal (c : Char) (asByte : Bool)
  | set (c : CharClass)
  | look (l : Look)

/-- Punctuation with a meaning of its own. -/
def isMeta (c : Char) : Bool :=
  ['\\', '.', '+', '*', '?', '(', ')', '|', '[', ']', '\x7b', '\x7d', '^', '$', '#', '&', '-', '~'].contains c

/-- Characters that an escape leaves as they are. -/
def isPlainEscape (c : Char) : Bool :=
  isMeta c || (isAscii c && !isAsciiDigit c && !isAsciiLetter c && c != '<' && c != '>')

def hexValue? (c : Char) : Option Nat :=
  if isAsciiDigit c then some (c.toNat - 48)
  else if 97 ≤ c.toNat && c.toNat ≤ 102 then some (c.toNat - 87)
  else if 65 ≤ c.toNat && c.toNat ≤ 70 then some (c.toNat - 55)
  else none

/-- Exactly `count` hexadecimal digits. -/
def takeHex (spaced : Bool) : (count : Nat) → Nat → List Char → Option (Nat × List Char)
  | 0, code, rest => some (code, rest)
  | _ + 1, _, [] => none
  | count + 1, code, c :: rest =>
    match hexValue? c with
    | some v => takeHex spaced count (16 * code + v) (if spaced then skipSpaced false rest else rest)
    | none => none

/-- Hexadecimal digits up to a closing brace. -/
def takeHexToBrace (spaced : Bool) : Option Nat → List Char → Option (Nat × List Char)
  | _, [] => none
  | code, c :: rest =>
    if c == '\x7d' then code.map (·, rest)
    else if spaced && isBlank c then takeHexToBrace spaced code rest
    else
      match hexValue? c with
      | some v => takeHexToBrace spaced (some (16 * code.getD 0 + v)) rest
      | none => none

/-- The character with the given code point. -/
def charOfCode? (code : Nat) : Option Char :=
  if code.isValidChar then some (Char.ofNat code) else none

/-- The part before a character and the part after it. -/
def cutAt? (stop : Char) (text : List Char) : Option (List Char × List Char) :=
  match text.dropWhile (· != stop) with
  | [] => none
  | _ :: rest => some (text.takeWhile (· != stop), rest)

def readHex (digits : Nat) (rest : List Char) : Reading Escape := do
  let spaced := (← flags).spaced
  goOn rest
  let (code, after, asByte) ← match ← Reading.rest with
    | '\x7b' :: rest =>
      match takeHexToBrace spaced none rest with
      | some (code, after) => pure (code, after, false)
      | none => fail .badEscape
    | rest =>
      match takeHex spaced digits 0 rest with
      | some (code, after) => pure (code, after, digits == 2)
      | none => fail .badEscape
  goOn after
  match charOfCode? code with
  | some c => return .literal c asByte
  | none => fail .badEscape

/-- The property written in braces, alone or as a value, and whether it is negated there. -/
def propertyOf? (written : List Char) : Option (Property × Bool) :=
  let text := String.ofList written
  match text.splitOn "!=", text.splitOn ":", text.splitOn "=" with
  | [name, value], _, _ => (Property.ofValue? name value).map (·, true)
  | [_], [name, value], [_] | [_], [_], [name, value] =>
    (Property.ofValue? name value).map (·, false)
  | [_], [_], [_] => (Property.ofName? text).map (·, false)
  | _, _, _ => none

/-- The class with the case variants of its members if case is ignored. -/
def foldedBy (flags : Flags) (c : CharClass) : CharClass :=
  if flags.insensitive then if flags.unicode then .folded c else .asciiFolded c else c

/-- The class or its complement. -/
def negatedIf (negated : Bool) (c : CharClass) : CharClass := if negated then .complement c else c

def readProperty (negated : Bool) (rest : List Char) : Reading Escape := do
  goOn rest
  let flags ← flags
  let written ← match ← Reading.rest with
    | [] => fail .badEscape
    | '\x7b' :: rest =>
      match cutAt? '\x7d' rest with
      | some (written, after) =>
        setRest after
        pure (if flags.spaced then written.filter (!isBlank ·) else written)
      | none => fail .badEscape
    | c :: rest =>
      if c == '\\' then fail .badEscape
      else
        goOn rest
        pure [c]
  if !flags.unicode then fail .notText
  else
    match propertyOf? written with
    | some (p, other) => return .set (negatedIf (negated != other) (foldedBy flags (.property p)))
    | none => fail .unknownProperty

/-- A class known by one letter. -/
def shorthand (unicode ascii : CharClass) (negated : Bool) (rest : List Char) : Reading Escape := do
  setRest rest
  if (← flags).unicode then return .set (negatedIf negated unicode)
  else if negated then fail .notText
  else return .set ascii

/-- The kind of boundary written in braces. -/
def specialBoundary? (kind : WordKind) : String → Option Look
  | "start" => some (.wordStart kind)
  | "end" => some (.wordEnd kind)
  | "start-half" => some (.wordStartHalf kind)
  | "end-half" => some (.wordEndHalf kind)
  | _ => none

/-- The letters, hyphens and, in a spaced expression, blanks at the start of a text. -/
def boundaryName (spaced : Bool) : List Char → List Char × List Char
  | [] => ([], [])
  | c :: rest =>
    if isAsciiLetter c || c == '-' then
      let (name, after) := boundaryName spaced rest
      (c :: name, after)
    else if spaced && isBlank c then boundaryName spaced rest
    else ([], c :: rest)

/-- A boundary; in braces after it may stand which kind, unless they hold a count. -/
def readBoundary (rest : List Char) : Reading Escape := do
  let flags ← flags
  let kind := if flags.unicode then WordKind.unicode else .ascii
  setRest rest
  match rest with
  | '\x7b' :: inner =>
    let inner := if flags.spaced then skipSpaced false inner else inner
    match inner with
    | [] => fail .badEscape
    | c :: _ =>
      if isAsciiLetter c || c == '-' then
        match boundaryName flags.spaced inner with
        | (name, '\x7d' :: after) =>
          setRest after
          match specialBoundary? kind (String.ofList name) with
          | some look => return .look look
          | none => fail .badEscape
        | _ => fail .badEscape
      else return .look (.boundary kind)
  | _ => return .look (.boundary kind)

/-- Reads what follows a backslash. -/
def readEscape : List Char → Reading Escape
  | [] => fail .badEscape
  | c :: rest => do
    let kind := if (← flags).unicode then WordKind.unicode else .ascii
    let literal (d : Char) : Reading Escape := do
      setRest rest
      return .literal d false
    let look (l : Look) : Reading Escape := do
      setRest rest
      return .look l
    if c == 'x' then readHex 2 rest
    else if c == 'u' then readHex 4 rest
    else if c == 'U' then readHex 8 rest
    else if c == 'p' || c == 'P' then readProperty (c == 'P') rest
    else if c == 'd' || c == 'D' then shorthand .digit .asciiDigit (c == 'D') rest
    else if c == 's' || c == 'S' then shorthand .blank .asciiBlank (c == 'S') rest
    else if c == 'w' || c == 'W' then shorthand .word .asciiWord (c == 'W') rest
    else if isPlainEscape c then literal c
    else if c == 'a' then literal '\x07'
    else if c == 'f' then literal '\x0c'
    else if c == 't' then literal '\t'
    else if c == 'n' then literal '\n'
    else if c == 'r' then literal '\r'
    else if c == 'v' then literal '\x0b'
    else if c == 'A' then look .textStart
    else if c == 'z' then look .textEnd
    else if c == 'b' then readBoundary rest
    else if c == 'B' then look (.noBoundary kind)
    else if c == '<' then look (.wordStart kind)
    else if c == '>' then look (.wordEnd kind)
    else fail .badEscape

/-! ## Classes in brackets -/

inductive ClassOp where
  | intersection
  | difference
  | symmetricDifference

def ClassOp.apply : ClassOp → CharClass → CharClass → CharClass
  | intersection => .intersection
  | difference => .difference
  | symmetricDifference => .symmetricDifference

/-- Carries out the operation that waits for its right side. -/
def settled (flags : Flags) (waiting : Option (ClassOp × CharClass)) (right : CharClass) : CharClass :=
  match waiting with
  | some (op, left) => op.apply (foldedBy flags left) (foldedBy flags right)
  | none => right

/-- A class between colons, such as `:alpha:]`: the class, whether it is negated, and the rest. -/
def asciiClass? : List Char → Option (CharClass × Bool × List Char)
  | ':' :: text =>
    let (negated, text) := match text with
      | '^' :: rest => (true, rest)
      | _ => (false, text)
    match cutAt? ':' text with
    | some (name, ']' :: rest) =>
      (CharClass.ofAsciiName? (String.ofList name)).map (·, negated, rest)
    | _ => none
  | _ => none

/-- One member of a class: a character or an escape. -/
def readMember : Reading Escape := do
  match ← Reading.rest with
  | [] => fail .unclosedClass
  | '\\' :: rest => readEscape rest
  | c :: rest =>
    setRest rest
    return .literal c false

/-- The character of a member that has to be a single one. -/
def literalOf (flags : Flags) : Escape → Reading Char
  | .literal c _ => if flags.unicode || isAscii c then return c else fail .notText
  | _ => fail .badRange

/-- The class of a member. -/
def classOf (flags : Flags) : Escape → Reading CharClass
  | .literal c asByte => return .single (← literalOf flags (.literal c asByte))
  | .set c => return c
  | .look _ => fail .badEscape

/-- A member or a range of members. -/
def readMemberOrRange : Reading CharClass := do
  let flags ← flags
  let first ← readMember
  skipBlanks
  match ← Reading.rest with
  | [] => fail .unclosedClass
  | '-' :: rest =>
    let ahead := if flags.spaced then skipSpaced false rest else rest
    match ahead with
    | ']' :: _ | '-' :: _ => classOf flags first
    | _ =>
      goOn rest
      if (← Reading.rest).isEmpty then fail .unclosedClass
      let last ← readMember
      let first ← literalOf flags first
      let last ← literalOf flags last
      if first.toNat ≤ last.toNat then return .range first last else fail .badRange
  | _ => classOf flags first

/-- Hyphens at the start of a class; whether there are any. -/
def readHyphens : Nat → CharClass → Bool → Reading (CharClass × Bool)
  | 0, members, any => return (members, any)
  | fuel + 1, members, any => do
    match ← Reading.rest with
    | '-' :: rest =>
      goOn rest
      readHyphens fuel (.union members (.single '-')) true
    | _ => return (members, any)

mutual
/-- Reads a class after its opening bracket. -/
def readClass : Nat → Reading CharClass
  | 0 => fail .tooLarge
  | fuel + 1 => do
    skipBlanks
    let negated ← match ← Reading.rest with
      | '^' :: rest =>
        goOn rest
        pure true
      | _ => pure false
    let (members, nonempty) ← readHyphens (← Reading.rest).length .empty false
    let members ← match nonempty, ← Reading.rest with
      | false, ']' :: rest =>
        goOn rest
        pure (CharClass.single ']')
      | _, _ => pure members
    let c ← readMembers fuel none members
    let flags ← flags
    if negated && !flags.unicode then fail .notText
    return negatedIf negated (foldedBy flags c)
/-- Reads members up to the closing bracket. -/
def readMembers : Nat → Option (ClassOp × CharClass) → CharClass → Reading CharClass
  | 0, _, _ => fail .tooLarge
  | fuel + 1, waiting, members => do
    skipBlanks
    let flags ← flags
    let operate (op : ClassOp) (rest : List Char) : Reading CharClass := do
      setRest rest
      readMembers fuel (some (op, settled flags waiting members)) .empty
    match ← Reading.rest with
    | [] => fail .unclosedClass
    | '[' :: rest =>
      match asciiClass? rest with
      | some (c, negated, after) =>
        if negated && !flags.unicode then fail .notText
        setRest after
        readMembers fuel waiting (.union members (negatedIf negated (foldedBy flags c)))
      | none =>
        setRest rest
        let inner ← readClass fuel
        readMembers fuel waiting (.union members inner)
    | ']' :: rest =>
      setRest rest
      return settled flags waiting members
    | '&' :: '&' :: rest => operate .intersection rest
    | '-' :: '-' :: rest => operate .difference rest
    | '~' :: '~' :: rest => operate .symmetricDifference rest
    | _ =>
      let c ← readMemberOrRange
      readMembers fuel waiting (.union members c)
end

/-! ## Repetition -/

/-- Decimal digits, with blanks around them and, in a spaced expression, between them. -/
def takeDigits (spaced : Bool) : List Char → List Char × List Char
  | [] => ([], [])
  | c :: rest =>
    if isAsciiDigit c then
      let (digits, after) := takeDigits spaced rest
      (c :: digits, after)
    else if spaced && isBlank c then takeDigits spaced rest
    else ([], c :: rest)

/-- A number, or `none` where there are no digits. -/
def takeCount (spaced : Bool) (text : List Char) : Option Nat × List Char :=
  let (digits, rest) := takeDigits spaced (text.dropWhile isBlank)
  let value := if digits.isEmpty then none
    else some (digits.foldl (fun n c => 10 * n + (c.toNat - 48)) 0)
  (value, rest.dropWhile isBlank)

/-- How often something is repeated. -/
structure Count where
  min : Nat
  max : Option Nat

/-- A count after its opening brace. -/
def takeCounts (spaced : Bool) (text : List Char) : Option (Count × List Char) :=
  let valid (n : Nat) : Bool := n < UInt32.size
  match takeCount spaced text with
  | (some n, '\x7d' :: rest) => if valid n then some (⟨n, some n⟩, rest) else none
  | (some n, ',' :: rest) =>
    match (if spaced then skipSpaced false rest else rest) with
    | '\x7d' :: rest => if valid n then some (⟨n, none⟩, rest) else none
    | rest =>
      match takeCount spaced rest with
      | (some m, '\x7d' :: rest) => if valid m && n ≤ m then some (⟨n, some m⟩, rest) else none
      | _ => none
  | _ => none

def Expr.size : Expr → Nat
  | .seq a b | .alt a b => a.size + b.size + 1
  | .opt _ a | .plus _ a | .more _ a => a.size + 1
  | .empty | .set _ | .look _ | .mark _ => 1

/-- The largest number of steps an expression may be written out to. -/
def sizeLimit : Nat := 327680

def repeated (count : Count) (greedy : Bool) (body : Expr) : Reading Expr :=
  if sizeLimit < body.size * (count.max.getD count.min) then fail .tooLarge
  else
    match count.max with
    | some max => return body.between greedy count.min max
    | none => return body.atLeast greedy count.min

/-- A part of a branch: an expression, or flags, which nothing can repeat. -/
inductive Part where
  | expr (e : Expr)
  | flags

/-- Repeats the last part of a branch, given latest first. -/
def repeatLast (count : Count) (isLazy : Bool) : List Part → Reading (List Part)
  | .expr e :: parts => do
    let flags ← flags
    return .expr (← repeated count (isLazy == flags.swapGreed) e) :: parts
  | _ => fail .nothingToRepeat

/-! ## Groups and branches -/

/-- Sets or clears the flag a letter stands for. -/
def Flags.set? (flags : Flags) (letter : Char) (value : Bool) : Option Flags :=
  match letter with
  | 'i' => some { flags with insensitive := value }
  | 'm' => some { flags with multiLine := value }
  | 's' => some { flags with dotAll := value }
  | 'U' => some { flags with swapGreed := value }
  | 'u' => some { flags with unicode := value }
  | 'R' => some { flags with crlf := value }
  | 'x' => some { flags with spaced := value }
  | _ => none

/-- Flags up to a colon or a closing parenthesis; each may occur once. -/
def takeFlags : (seen : List Char) → (value : Bool) → Flags → List Char →
    Option (List Char × Flags × List Char)
  | _, _, _, [] => none
  | seen, value, flags, c :: rest =>
    if c == ':' || c == ')' then
      if seen.head? == some '-' then none else some (seen, flags, c :: rest)
    else if seen.contains c then none
    else if c == '-' then takeFlags (c :: seen) false flags rest
    else
      match flags.set? c value with
      | some flags => takeFlags (c :: seen) value flags rest
      | none => none

/-- Whether a name in angle brackets is well formed. -/
def isGroupName : List Char → Bool
  | [] => false
  | c :: rest =>
    (c == '_' || isAlphabetic c) &&
      rest.all fun c => c == '_' || c == '.' || c == '[' || c == ']' || isAlphabetic c
        || (category c).isNumber

/-- What an opening parenthesis begins. -/
inductive Opening where
  | capture (index : Nat)
  | plain (flags : Flags)
  | directive (flags : Flags)

def nextGroup : Reading Opening := do
  let s ← get
  set { s with groups := s.groups + 1 }
  return .capture (s.groups + 1)

def readName (rest : List Char) : Reading Opening := do
  match cutAt? '>' rest with
  | none => fail .badGroupName
  | some (name, after) =>
    let s ← get
    if !isGroupName name || s.names.contains name then fail .badGroupName
    set { s with rest := after, names := name :: s.names }
    nextGroup

/-- Reads what follows an opening parenthesis. -/
def readOpening (rest : List Char) : Reading Opening := do
  goOn rest
  match ← Reading.rest with
  | '?' :: '=' :: _ | '?' :: '!' :: _ | '?' :: '<' :: '=' :: _ | '?' :: '<' :: '!' :: _ =>
    fail .lookAround
  | '?' :: 'P' :: '<' :: rest => readName rest
  | '?' :: '<' :: rest => readName rest
  | '?' :: rest =>
    match takeFlags [] true (← flags) rest with
    | some (seen, flags, ')' :: after) =>
      setRest after
      if seen.isEmpty then fail .nothingToRepeat else return .directive flags
    | some (_, flags, _ :: after) =>
      setRest after
      return .plain flags
    | _ => fail .badFlags
  | _ => nextGroup

/-- A literal character under the flags. -/
def literalExpr (flags : Flags) (c : Char) (asByte : Bool) : Reading Expr :=
  if !flags.unicode && asByte && !isAscii c then fail .notText
  else if !flags.insensitive then return .set (.single c)
  else if flags.unicode then
    return .set (if (caseVariants c).all (· == c) then .single c else .folded (.single c))
  else return .set (if isAsciiLetter c then .asciiFolded (.single c) else .single c)

def dotExpr (flags : Flags) : Reading Expr :=
  if !flags.unicode then fail .notText
  else if flags.dotAll then return .set .any
  else if flags.crlf then return .set .notLineBreak
  else return .set .notLineFeed

def startExpr (flags : Flags) : Expr :=
  .look (if !flags.multiLine then .textStart else if flags.crlf then .anyLineStart else .lineStart)

def endExpr (flags : Flags) : Expr :=
  .look (if !flags.multiLine then .textEnd else if flags.crlf then .anyLineEnd else .lineEnd)

def escapeExpr (flags : Flags) : Escape → Reading Expr
  | .literal c asByte => literalExpr flags c asByte
  | .set c => return .set c
  | .look l => return .look l

/-- The parts of a branch, latest first, as one expression. -/
def branchOf (parts : List Part) : Expr :=
  let exprs := parts.filterMap fun part => match part with
    | .expr e => some e
    | .flags => none
  match exprs with
  | [] => .empty
  | last :: before => before.foldl (fun rest e => e.andThen rest) last

/-- Branches, latest first, as one expression. -/
def choiceOf : List Expr → Expr
  | [] => .empty
  | last :: before => before.foldl (fun rest e => .alt e rest) last

/-- Reads branches up to a closing parenthesis or the end; branches and parts come latest first. -/
def readBranches : (fuel : Nat) → (branches : List Expr) → (parts : List Part) → Reading Expr
  | 0, _, _ => fail .tooLarge
  | fuel + 1, branches, parts => do
    skipBlanks
    let flags ← flags
    let add (e : Expr) : Reading Expr := readBranches fuel branches (.expr e :: parts)
    let again (count : Count) (rest : List Char) : Reading Expr := do
      match rest with
      | '?' :: rest =>
        setRest rest
        readBranches fuel branches (← repeatLast count true parts)
      | _ =>
        setRest rest
        readBranches fuel branches (← repeatLast count false parts)
    match ← Reading.rest with
    | [] => return choiceOf (branchOf parts :: branches)
    | ')' :: _ => return choiceOf (branchOf parts :: branches)
    | '|' :: rest =>
      setRest rest
      readBranches fuel (branchOf parts :: branches) []
    | '(' :: rest =>
      match ← readOpening rest with
      | .directive inner =>
        setFlags inner
        readBranches fuel branches (.flags :: parts)
      | opening =>
        let inner := match opening with
          | .plain inner => inner
          | _ => flags
        setFlags inner
        let body ← readBranches fuel [] []
        match ← Reading.rest with
        | ')' :: rest =>
          setFlags flags
          setRest rest
          match opening with
          | .capture n => add (.seq (.mark (2 * n)) (.seq body (.mark (2 * n + 1))))
          | _ => add body
        | _ => fail .unclosedGroup
    | '[' :: rest =>
      setRest rest
      let c ← readClass (rest.length + 1)
      add (.set c)
    | '?' :: rest => again ⟨0, some 1⟩ rest
    | '*' :: rest => again ⟨0, none⟩ rest
    | '+' :: rest => again ⟨1, none⟩ rest
    | '\x7b' :: rest =>
      if parts.isEmpty then fail .nothingToRepeat
      match takeCounts flags.spaced (if flags.spaced then skipSpaced false rest else rest) with
      | some (count, rest) => again count (if flags.spaced then skipSpaced false rest else rest)
      | none => fail .badCount
    | '\\' :: rest => add (← escapeExpr flags (← readEscape rest))
    | '.' :: rest =>
      setRest rest
      add (← dotExpr flags)
    | '^' :: rest =>
      setRest rest
      add (startExpr flags)
    | '$' :: rest =>
      setRest rest
      add (endExpr flags)
    | c :: rest =>
      setRest rest
      add (← literalExpr flags c false)

/-- Reads a whole expression. -/
def Expr.read (source : String) : Except SyntaxError Expr := do
  let text := source.toList
  let (e, s) ← (readBranches (text.length + 1) [] []).run ⟨text, .initial, 0, []⟩
  if s.rest.isEmpty then return e else throw .unopenedGroup

end ParseFlow.Regex
