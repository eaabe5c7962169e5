import Gazetteer.Json.Value
import Gazetteer.Ordered.Set

/-!
# Encoding maps and sets

Maps become objects and sets become arrays. Both are written in the order of their keys or members,
which for strings is the order of their code points.
-/

namespace Gazetteer.Json

/-- A map with names for keys. -/
def dict (m : OrdMap String α) (encode : α → Json) : Json :=
  .object (m.entries.map fun (name, a) => (name, encode a))

def list (items : List α) (encode : α → Json) : Json := .array (items.map encode)

def stringSet (s : OrdSet String) : Json := strings s.toList

end Gazetteer.Json
