import ParseFlow.Text.Category

/-!
# Escaped and quoted text

Control characters, quotes and characters without a visible form are written as escapes. A quoted
string leaves single quotes alone and a quoted character double ones; unquoted escaped text escapes
both, but keeps the marks that extend a character before them.
-/
namespace ParseFlow.Text

/-- What is escaped beyond controls, backslashes and unprintable characters. -/
structure EscapeRule where
  extenders : Bool
  singleQuote : Bool
  doubleQuote : Bool
  deriving DecidableEq, Repr

/-- A small hexadecimal digit. -/
def hexDigit (n : Nat) : Char := if n < 10 then Char.ofNat (48 + n) else Char.ofNat (87 + n)

/-- Hexadecimal digits without leading zeros; `places` bounds their number. -/
def hexDigits : Nat → Nat → List Char
  | 0, _ => []
  | places + 1, n => (if n < 16 then [] else hexDigits places (n / 16)) ++ [hexDigit (n % 16)]

/-- The escape that gives a code point in hexadecimal. -/
def codeEscape (c : Char) : List Char := '\\' :: 'u' :: '\x7b' :: (hexDigits 6 c.toNat ++ ['\x7d'])

/-- The written form of one character. -/
def escapeChar (rule : EscapeRule) (c : Char) : List Char :=
  if c == '\x00' then ['\\', '0']
  else if c == '\t' then ['\\', 't']
  else if c == '\r' then ['\\', 'r']
  else if c == '\n' then ['\\', 'n']
  else if c == '\\' then ['\\', '\\']
  else if c == '"' then if rule.doubleQuote then ['\\', '"'] else ['"']
  else if c == '\'' then if rule.singleQuote then ['\\', '\''] else ['\'']
  else if rule.extenders && isExtender c then codeEscape c
  else if isPrintable c then [c]
  else codeEscape c

/-- Inside a quoted string. -/
def EscapeRule.inString : EscapeRule := ⟨true, false, true⟩

/-- Inside a quoted character. -/
def EscapeRule.inChar : EscapeRule := ⟨true, true, false⟩

/-- At the start of unquoted text. -/
def EscapeRule.atStart : EscapeRule := ⟨true, true, true⟩

/-- After the start of unquoted text, where marks extend the character before. -/
def EscapeRule.within : EscapeRule := ⟨false, true, true⟩

/-- The text between double quotes. -/
def quoted (text : String) : String :=
  String.ofList ('"' :: (text.toList.flatMap (escapeChar .inString) ++ ['"']))

/-- The character between single quotes. -/
def quotedChar (c : Char) : String :=
  String.ofList ('\'' :: (escapeChar .inChar c ++ ['\'']))

/-- The text with its escapes and without quotes. -/
def escaped (text : String) : String :=
  match text.toList with
  | [] => ""
  | c :: rest => String.ofList (escapeChar .atStart c ++ rest.flatMap (escapeChar .within))

end ParseFlow.Text
