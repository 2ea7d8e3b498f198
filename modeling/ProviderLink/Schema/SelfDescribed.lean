/-
Schemas described as data: a key/value map of the constraint grammar,
whose members become the attributes. Here, unlike in a type, the
`required` marker of each member counts and must be a boolean.
-/
import ProviderLink.Descriptor.SelfDescribed
import ProviderLink.Schema

namespace ProviderLink.ObjectSchema

open Descriptor (Malformed isKeyValue ofFormat)

/-- The attribute that a member describes. -/
def attributeOf (name : String) (v : Json) : Except Malformed AttrSchema :=
  let path := Path.root.member name
  match (v.member? "required").bind Json.bool? with
  | none => .error ⟨path, .requiredNotBool⟩
  | some required => do
    let type ← ofFormat path v
    return ⟨name, type, required⟩

/-- Adds an attribute for every member in order. -/
def addMembers (s : ObjectSchema) : List (String × Json) → Except Malformed ObjectSchema
  | [] => .ok s
  | (name, v) :: rest => do
    let a ← attributeOf name v
    addMembers (s.withAttribute a) rest

/-- Reads a schema described as data. -/
def ofValue (v : Json) : Except Malformed ObjectSchema :=
  match v with
  | .object members =>
    if isKeyValue v then addMembers empty members else .error ⟨.root, .schemaNotKeyValue⟩
  | _ => .error ⟨.root, .schemaNotKeyValue⟩

/-- A schema described as data, or the failure that its first malformed node is. -/
def decode (v : Json) : Outcome ObjectSchema := (ofValue v).mapError Malformed.error

end ProviderLink.ObjectSchema
