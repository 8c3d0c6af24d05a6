import ParseFlow.Text.Rendered

/-!
# Dynamic values

The values that pipelines and parsers described as data work on. They are ordered structurally:
first by kind, in the order of the constructors, then by contents.
-/
namespace ParseFlow

open Text

inductive Value where
  | unit
  | bool (b : Bool)
  | int (n : Int)
  | char (c : Char)
  | str (s : String)
  | list (items : List Value)
  | tuple (fields : List Value)
  deriving Inhabited

namespace Value

mutual
protected def decEq : (v w : Value) → Decidable (v = w)
  | .unit, .unit => isTrue rfl
  | .bool a, .bool b => decidable_of_iff (a = b) (by simp)
  | .int a, .int b => decidable_of_iff (a = b) (by simp)
  | .char a, .char b => decidable_of_iff (a = b) (by simp)
  | .str a, .str b => decidable_of_iff (a = b) (by simp)
  | .list a, .list b => @decidable_of_iff _ (a = b) (by simp) (Value.decEqAll a b)
  | .tuple a, .tuple b => @decidable_of_iff _ (a = b) (by simp) (Value.decEqAll a b)
  | .unit, .bool _ | .unit, .int _ | .unit, .char _ | .unit, .str _ | .unit, .list _
  | .unit, .tuple _ | .bool _, .unit | .bool _, .int _ | .bool _, .char _ | .bool _, .str _
  | .bool _, .list _ | .bool _, .tuple _ | .int _, .unit | .int _, .bool _ | .int _, .char _
  | .int _, .str _ | .int _, .list _ | .int _, .tuple _ | .char _, .unit | .char _, .bool _
  | .char _, .int _ | .char _, .str _ | .char _, .list _ | .char _, .tuple _ | .str _, .unit
  | .str _, .bool _ | .str _, .int _ | .str _, .char _ | .str _, .list _ | .str _, .tuple _
  | .list _, .unit | .list _, .bool _ | .list _, .int _ | .list _, .char _ | .list _, .str _
  | .list _, .tuple _ | .tuple _, .unit | .tuple _, .bool _ | .tuple _, .int _ | .tuple _, .char _
  | .tuple _, .str _ | .tuple _, .list _ => isFalse nofun
protected def decEqAll : (vs ws : List Value) → Decidable (vs = ws)
  | [], [] => isTrue rfl
  | [], _ :: _ => isFalse nofun
  | _ :: _, [] => isFalse nofun
  | v :: vs, w :: ws =>
    match Value.decEq v w with
    | isTrue h => @decidable_of_iff _ (vs = ws) (by simp [h]) (Value.decEqAll vs ws)
    | isFalse h => isFalse (by simp [h])
end

instance : DecidableEq Value := Value.decEq

/-- The place of a value's kind in the order. -/
def kind : Value → Nat
  | unit => 0
  | bool _ => 1
  | int _ => 2
  | char _ => 3
  | str _ => 4
  | list _ => 5
  | tuple _ => 6

mutual
protected def compare : Value → Value → Ordering
  | .unit, .unit => .eq
  | .bool a, .bool b => Ord.compare a b
  | .int a, .int b => Ord.compare a b
  | .char a, .char b => Ord.compare a.toNat b.toNat
  | .str a, .str b => Ord.compare (a.toList.map Char.toNat) (b.toList.map Char.toNat)
  | .list a, .list b => Value.compareAll a b
  | .tuple a, .tuple b => Value.compareAll a b
  | v, w => Ord.compare v.kind w.kind
protected def compareAll : List Value → List Value → Ordering
  | [], [] => .eq
  | [], _ :: _ => .lt
  | _ :: _, [] => .gt
  | v :: vs, w :: ws => (Value.compare v w).then (Value.compareAll vs ws)
end

instance : Ord Value := ⟨Value.compare⟩

mutual
protected def render : Value → String
  | .unit => "()"
  | .bool b => Text.render b
  | .int n => Text.render n
  | .char c => Text.render c
  | .str s => Text.render s
  | .list items => inBrackets (Value.renderAll items)
  | .tuple fields => inParentheses (Value.renderAll fields)
protected def renderAll : List Value → List String
  | [] => []
  | v :: vs => Value.render v :: Value.renderAll vs
end

instance : Rendered Value := ⟨Value.render⟩

/-- The elements of a list or tuple; any other value is its own only element. -/
def elements : Value → List Value
  | list items => items
  | tuple fields => fields
  | v => [v]

end Value

/-- Types whose values can be turned into dynamic ones. -/
class ToValue (α : Type) where
  toValue : α → Value

export ToValue (toValue)

variable {α β γ : Type}

instance : ToValue Value := ⟨id⟩
instance : ToValue Unit := ⟨fun _ => .unit⟩
instance : ToValue Int := ⟨.int⟩
instance : ToValue Nat := ⟨fun n => .int n⟩
instance : ToValue Char := ⟨.char⟩
instance : ToValue String := ⟨.str⟩
instance [ToValue α] : ToValue (List α) := ⟨fun xs => .list (xs.map toValue)⟩
instance {n : Nat} [ToValue α] : ToValue (Vector α n) := ⟨fun xs => .list (xs.toList.map toValue)⟩
instance (priority := low) [ToValue α] [ToValue β] : ToValue (α × β) :=
  ⟨fun p => .tuple [toValue p.1, toValue p.2]⟩
instance [ToValue α] [ToValue β] [ToValue γ] : ToValue (α × β × γ) :=
  ⟨fun t => .tuple [toValue t.1, toValue t.2.1, toValue t.2.2]⟩

end ParseFlow
