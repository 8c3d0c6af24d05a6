import ParseFlow.Parser.Text

/-!
# Comments in C source text

Line comments run up to the end of the line, and block comments to the first closing marker.
-/
namespace ParseFlow.Grammar

open Text

/-- The text of a comment without its markers and the blanks around it. -/
structure Comment where
  text : String
  deriving DecidableEq, Repr

namespace Comment

def display (comment : Comment) : String := called "Comment" [render comment.text]

instance : Rendered Comment := ⟨display⟩

instance : ToValue Comment := ⟨fun comment => .str comment.display⟩

/-- The text without a given beginning. -/
def withoutPrefix? (start text : List Char) : Option (List Char) :=
  if start.isPrefixOf text then some (text.drop start.length) else none

/-- The text without a given end. -/
def withoutSuffix? (stop text : List Char) : Option (List Char) :=
  if stop.isSuffixOf text then some (text.take (text.length - stop.length)) else none

/-- The text between the markers of a comment. -/
def between (text : List Char) : List Char :=
  match withoutPrefix? ['/', '/'] text with
  | some body => body
  | none =>
    match (withoutPrefix? ['/', '*'] text).bind (withoutSuffix? ['*', '/']) with
    | some body => body
    | none => text

/-- Strips the markers and the blanks inside them. -/
def ofText (text : String) : Traced Comment := do
  Traced.emit .strippingMarkers
  let body := String.ofList (trim (between text.toList))
  Traced.emit (.comment (escaped body))
  return ⟨body⟩

end Comment

/-- A comment, markers included. -/
def commentRegex : Regex := .ofSource "^(?://[^\\n]*|/\\*(?s:.*?)\\*/)"

/-- Blanks, or nothing. -/
def blanksRegex : Regex := .ofSource "^\\s*"

/-- A single comment at the current position. -/
def comment : Parser Char Comment :=
  (Parser.pattern commentRegex).mapTraced "strip_markers" Comment.ofText

/-- All comments from the current position on, with blanks before each. -/
def comments : Parser Char (List Comment) := (comment.precededBy (.pattern blanksRegex)).many

end ParseFlow.Grammar
