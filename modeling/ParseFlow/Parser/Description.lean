import ParseFlow.Pipeline.Stage

/-!
# Descriptions of parsers

A parser is described by what it matches, by the descriptions of the parsers it was put together
from, and by the stages applied to its value. Parsers are compared by their descriptions.
-/
namespace ParseFlow

open Text

/-- What a parser matches, apart from the parsers it is made of. -/
inductive Form where
  | string (literal : String)
  | sequence (items : String)
  | regex (source : String)
  | satisfy (label : Label)
  | any
  | end
  | custom (label : Label)
  | then
  | precededBy
  | followedBy
  | between
  | many
  | many1
  | repeat (min max : Nat)
  | list
  | pair
  | triple
  | tuple
  deriving DecidableEq, Repr

namespace Form

def name : Form → String
  | string _ => "string"
  | sequence _ => "sequence"
  | regex _ => "regex"
  | satisfy _ => "satisfy"
  | any => "any"
  | .end => "end"
  | custom _ => "custom"
  | .then => "then"
  | precededBy => "preceded_by"
  | followedBy => "followed_by"
  | between => "between"
  | many => "many"
  | many1 => "many1"
  | .repeat _ _ => "repeat"
  | list => "list"
  | pair => "pair"
  | triple => "triple"
  | tuple => "tuple"

/-- The form's own parameters, displayed before and after its parts. -/
def parameters : Form → List String × List String
  | string literal => ([quoted literal], [])
  | sequence items => ([items], [])
  | regex source => (["/" ++ source ++ "/"], [])
  | satisfy label | custom label => ([label.text], [])
  | .repeat min max => ([], [render min, render max])
  | _ => ([], [])

/-- The structured printed form, given those of the parts. -/
def renderWith (parts : List String) : Form → String
  | string literal => called "String" [render literal]
  | sequence items => called "Sequence" [render items]
  | regex source => called "Regex" [render source]
  | satisfy label => called "Satisfy" [render label]
  | any => "Any"
  | .end => "End"
  | custom label => called "Custom" [render label]
  | .then => called "Then" parts
  | precededBy => called "PrecededBy" parts
  | followedBy => called "FollowedBy" parts
  | between => withFields "Between" (["core", "open", "close"].zip parts)
  | many => called "Many" parts
  | many1 => called "Many1" parts
  | .repeat min max =>
    withFields "Repeat" (["inner"].zip parts ++ [("min", render min), ("max", render max)])
  | list => called "List" [inBrackets parts]
  | pair => called "Pair" parts
  | triple => called "Triple" parts
  | tuple => called "Tuple" [inBrackets parts]

end Form

inductive Description where
  | mk (form : Form) (parts : List Description) (stages : List Stage)

namespace Description

instance : Inhabited Description := ⟨mk .any [] []⟩

def form : Description → Form
  | mk form _ _ => form

def parts : Description → List Description
  | mk _ parts _ => parts

def stages : Description → List Stage
  | mk _ _ stages => stages

/-- A bare pattern. -/
def ofForm (form : Form) (parts : List Description) : Description := mk form parts []

/-- The same pattern without its stages. -/
def pattern (d : Description) : Description := ofForm d.form d.parts

/-- More stages after those there are. -/
def staged (d : Description) (stages : List Stage) : Description :=
  mk d.form d.parts (d.stages ++ stages)

theorem staged_nil (d : Description) : d.staged [] = d := by
  obtain ⟨form, parts, stages⟩ := d
  exact congrArg (mk form parts) (List.append_nil stages)

theorem staged_staged (d : Description) (stages others : List Stage) :
    (d.staged stages).staged others = d.staged (stages ++ others) :=
  congrArg (mk d.form d.parts) (List.append_assoc d.stages stages others)

mutual
protected def decEq : (d e : Description) → Decidable (d = e)
  | mk form parts stages, mk form' parts' stages' =>
    match Description.decEqAll parts parts' with
    | isTrue h => @decidable_of_iff _ (form = form' ∧ stages = stages') (by simp [h]) inferInstance
    | isFalse h => isFalse (by simp [h])
protected def decEqAll : (ds es : List Description) → Decidable (ds = es)
  | [], [] => isTrue rfl
  | [], _ :: _ => isFalse nofun
  | _ :: _, [] => isFalse nofun
  | d :: ds, e :: es =>
    match Description.decEq d e with
    | isTrue h => @decidable_of_iff _ (ds = es) (by simp [h]) (Description.decEqAll ds es)
    | isFalse h => isFalse (by simp [h])
end

instance : DecidableEq Description := Description.decEq

mutual
/-- The pattern, or `parser(pattern, stages)` if there are stages. -/
def display : Description → String
  | mk form parts stages =>
    let (before, after) := form.parameters
    let pattern := called form.name (before ++ displayAll parts ++ after)
    if stages.isEmpty then pattern else called "parser" (pattern :: stages.map Stage.display)
def displayAll : List Description → List String
  | [] => []
  | d :: ds => d.display :: displayAll ds
end

mutual
protected def render : Description → String
  | mk form parts stages =>
    withFields "Description"
      [("pattern", form.renderWith (Description.renderAll parts)), ("stages", Text.render stages)]
protected def renderAll : List Description → List String
  | [] => []
  | d :: ds => Description.render d :: Description.renderAll ds
end

instance : Rendered Description := ⟨Description.render⟩

/-- The structured printed form of the pattern alone. -/
def renderPattern (d : Description) : String := d.form.renderWith (d.parts.map Text.render)

end Description
end ParseFlow
