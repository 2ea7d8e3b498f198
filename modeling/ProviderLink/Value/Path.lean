/-
Positions inside a value. A message about a value starts with the way
from its root to the place it blames: `$`, then a point and a name for a
member and an index in brackets for an item.
-/
import ProviderLink.Json

namespace ProviderLink

/-- A way from the root of a value to a place in it. -/
inductive Path
  | root
  | member (parent : Path) (name : String)
  | item (parent : Path) (index : Nat)
  deriving DecidableEq, Repr

namespace Path

def text : Path → String
  | root => "$"
  | member p name => p.text ++ "." ++ name
  | item p index => p.text ++ "[" ++ toString index ++ "]"

/-- The place a path leads to, if the value has it. -/
def resolve : Path → Json → Option Json
  | root, v => some v
  | member p name, v => (p.resolve v).bind (Json.member? name)
  | item p index, v =>
    match p.resolve v with
    | some (.array items) => items[index]?
    | _ => none

end Path

end ProviderLink
