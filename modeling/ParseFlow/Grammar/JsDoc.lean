import ParseFlow.Parser.Text

/-!
# Documentation comments

A documentation comment begins with two stars. Its description is the text before the first line
that begins with a tag, and its tags are names with an optional value, of which the last one counts.
-/
namespace ParseFlow.Grammar

open Text Pipeline

structure JsDoc where
  description : String
  /-- Values of the tags, in the order of their names. -/
  tags : List (String × String)
  deriving DecidableEq, Repr

namespace JsDoc

/-- A comment that says nothing. -/
def blank : JsDoc := ⟨"", []⟩

/-- The value of a tag. -/
def tag? (doc : JsDoc) (name : String) : Option String := doc.tags.lookup name

instance : Rendered JsDoc where
  render doc := withFields "JsDoc"
    [("description", render doc.description),
     ("tags", inBraces (doc.tags.map fun t => (render t.1, render t.2)))]

instance : ToValue JsDoc where
  toValue doc := .tuple [.str doc.description, toValue doc.tags]

/-! ## The description -/

/-- The lines of a text without their line ends; nothing follows the last line end. -/
def lines (text : List Char) : List (List Char) := linesFrom [] text
where
  linesFrom (line : List Char) : List Char → List (List Char)
    | [] => if line.isEmpty then [] else [line.reverse]
    | '\n' :: rest =>
      (match line with
        | '\r' :: line => line.reverse
        | _ => line.reverse) :: linesFrom [] rest
    | c :: rest => linesFrom (c :: line) rest

/-- A line without the blanks and the star before it, and without the blanks around the rest. -/
def stripGutter (line : List Char) : List Char :=
  match trimStart line with
  | '*' :: rest => trim rest
  | rest => trim rest

/-- From the lines of a body to those of its description. -/
def descriptionLines : Transducer Empty (List Char) (List Char) :=
  .compose
    (.compose (.map "strip_gutter" stripGutter) (.takeWhile "before_tags" fun line => line.head? != some '@'))
    (.dropWhile "leading_blank" List.isEmpty)

/-- The lines joined by line ends. -/
def joinLines : List (List Char) → List Char
  | [] => []
  | [line] => line
  | line :: lines => line ++ '\n' :: joinLines lines

def descriptionOf (body : List Char) : List Char :=
  trimEnd (joinLines ((descriptionLines.collect (lines body)).getD []))

/-! ## The tags -/

/-- A tag: a name after an at sign, and a value in braces or a single word. -/
def tagRegex : Regex :=
  .ofSource "(?:^|\\s)@(\\w+)(?:[ \\t]*\\\x7b([^\x7d]*)\\\x7d|[ \\t]+([^\\s*@]\\S*))?"

/-- The text of a group. -/
def groupText? (body : List Char) (m : Regex.Match) (n : Nat) : Option (List Char) :=
  (m.group? n).map fun g => (body.drop g.1).take (g.2 - g.1)

/-- The name and value of one tag. -/
def tagOf (body : List Char) (m : Regex.Match) : String × String :=
  let value := match groupText? body m 2 with
    | some value => some value
    | none => groupText? body m 3
  (String.ofList ((groupText? body m 1).getD []), String.ofList (trim (value.getD [])))

/-- Puts an entry into a list sorted by name, in place of one of that name. -/
def insertTag (entry : String × String) : List (String × String) → List (String × String)
  | [] => [entry]
  | other :: rest =>
    if entry.1 < other.1 then entry :: other :: rest
    else if entry.1 = other.1 then entry :: rest
    else other :: insertTag entry rest

/-- All tags of a body; the last value of each name counts. -/
def tagsOf (body : List Char) : List (String × String) :=
  (tagRegex.expr.matches body).foldl (fun tags m => insertTag (tagOf body m) tags) []

/-- Reads the text between the markers. -/
def ofBody (body : String) : Traced JsDoc := do
  let text := body.toList
  Traced.emit (.readingBody (extent text))
  let tags := tagsOf text
  Traced.emit (.parsedDoc tags.length)
  return ⟨String.ofList (descriptionOf text), tags⟩

end JsDoc

/-- Text in which no star stands before a slash. -/
def bodyRegex : Regex := .ofSource "^(?:[^*]|\\*+[^*/])*"

/-- Stars and the slash that closes the comment. -/
def closingRegex : Regex := .ofSource "^\\*+/"

/-- A documentation comment at the current position. -/
def doc : Parser Char JsDoc :=
  ((Parser.pattern bodyRegex).between (.string "/**") (.pattern closingRegex)).mapTraced "jsdoc"
    JsDoc.ofBody

end ParseFlow.Grammar
