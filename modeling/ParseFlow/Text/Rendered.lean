import ParseFlow.Text.Quoted

/-!
# Printed values

How values print inside descriptions and results: strings and characters quoted, lists in square
brackets, tuples in round ones, and named values under their names.
-/
namespace ParseFlow.Text

/-- Joins parts with a comma and a space. -/
def commas (parts : List String) : String := String.intercalate ", " parts

def inBrackets (items : List String) : String := "[" ++ commas items ++ "]"

/-- A lone field keeps a comma, and a tuple without fields prints as nothing. -/
def inParentheses : List String → String
  | [] => ""
  | [field] => "(" ++ field ++ ",)"
  | fields => "(" ++ commas fields ++ ")"

/-- A name applied to its arguments. -/
def called (name : String) (arguments : List String) : String :=
  name ++ "(" ++ commas arguments ++ ")"

/-- A name followed by labelled fields in braces. -/
def withFields (name : String) (fields : List (String × String)) : String :=
  name ++ " \x7b " ++ commas (fields.map fun f => f.1 ++ ": " ++ f.2) ++ " \x7d"

/-- A map in braces; without entries the braces stand together. -/
def inBraces (entries : List (String × String)) : String :=
  "\x7b" ++ commas (entries.map fun e => e.1 ++ ": " ++ e.2) ++ "\x7d"

universe u

/-- Values with a printed form. -/
class Rendered (α : Type u) where
  render : α → String

export Rendered (render)

variable {α β γ : Type}

instance : Rendered Unit := ⟨fun _ => "()"⟩
instance : Rendered Bool := ⟨fun b => if b then "true" else "false"⟩
instance : Rendered Nat := ⟨fun n => toString n⟩
instance : Rendered Int := ⟨fun n => toString n⟩
instance : Rendered Char := ⟨quotedChar⟩
instance : Rendered String := ⟨quoted⟩
instance [Rendered α] : Rendered (List α) := ⟨fun xs => inBrackets (xs.map render)⟩
instance {n : Nat} [Rendered α] : Rendered (Vector α n) := ⟨fun xs => inBrackets (xs.toList.map render)⟩
instance (priority := low) [Rendered α] [Rendered β] : Rendered (α × β) :=
  ⟨fun p => inParentheses [render p.1, render p.2]⟩
instance [Rendered α] [Rendered β] [Rendered γ] : Rendered (α × β × γ) :=
  ⟨fun t => inParentheses [render t.1, render t.2.1, render t.2.2]⟩

end ParseFlow.Text
