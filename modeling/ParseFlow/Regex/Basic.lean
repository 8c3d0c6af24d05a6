import ParseFlow.Regex.Reader
import ParseFlow.Regex.Search

/-!
# Compiled regular expressions
-/
namespace ParseFlow

/-- An expression with the text it was written as. -/
structure Regex where
  source : String
  expr : Regex.Expr
  deriving DecidableEq

namespace Regex

def compile (source : String) : Except SyntaxError Regex :=
  return ⟨source, ← Expr.read source⟩

/-- The expression a text is written for; one that matches nothing if the text is none. -/
def ofSource (source : String) : Regex :=
  match compile source with
  | .ok regex => regex
  | .error _ => ⟨source, .set .empty⟩

end Regex
end ParseFlow
