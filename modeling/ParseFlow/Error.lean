/-!
# Errors of construction

Parsers and pipelines check their parameters when they are built.
-/
namespace ParseFlow

inductive ConstructionError where
  | bounds (min max : Nat)
  | arity (expected found : Nat)
  | window (size step : Nat)
  | expression
  deriving DecidableEq, Repr, Inhabited

def ConstructionError.message : ConstructionError → String
  | bounds min max => s!"repeat bounds: min {min} is greater than max {max}"
  | arity expected found => s!"arity: expected {expected} parsers, found {found}"
  | window size step => s!"window: size {size} and step {step} must both be nonzero"
  | expression => "compile regex"

end ParseFlow
