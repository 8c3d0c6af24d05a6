import ParseFlow.Pipeline.Items
import ParseFlow.Value.Basic

/-!
# Lists with at least one item
-/
namespace ParseFlow

open Text

structure NonEmpty (β : Type) where
  head : β
  tail : List β

namespace NonEmpty
variable {β : Type}

def toList (items : NonEmpty β) : List β := items.head :: items.tail

instance [Rendered β] : Rendered (NonEmpty β) where
  render items := withFields "NonEmpty" [("head", render items.head), ("tail", render items.tail)]

instance [ToValue β] : ToValue (NonEmpty β) := ⟨fun items => toValue items.toList⟩

instance : Pipeline.IntoItems (NonEmpty β) β := ⟨fun items => .listed items.toList⟩

end NonEmpty
end ParseFlow
