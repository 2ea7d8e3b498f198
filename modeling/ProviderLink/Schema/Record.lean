/-
The record forms of schemas. A schema is always written with both its
tables; in reading either may be missing and is then empty.
-/
import ProviderLink.Descriptor.Record
import ProviderLink.Schema

namespace ProviderLink

-- ============================================================= writing

def AttrSchema.toJson (a : AttrSchema) : Json :=
  .object [("name", .string a.name), ("type", a.type.toJson), ("required", .bool a.required)]

namespace ObjectSchema

mutual

def toJson : ObjectSchema → Json
  | ⟨attributes, blocks⟩ =>
    .object [("attributes", .object (Dict.mapValues AttrSchema.toJson attributes)),
      ("blocks", .object (blocksToJson blocks))]

def blocksToJson : List (String × BlockSchema) → List (String × Json)
  | [] => []
  | (key, ⟨name, nested, required⟩) :: rest =>
    (key, .object [("name", .string name), ("nested", nested.toJson),
      ("required", .bool required)]) :: blocksToJson rest

end

end ObjectSchema

def BlockSchema.toJson (b : BlockSchema) : Json :=
  .object [("name", .string b.name), ("nested", b.nested.toJson), ("required", .bool b.required)]

-- ============================================================= reading

def AttrSchema.read : Json.Reader AttrSchema :=
  ((Json.Fields.pure AttrSchema.mk)
    |>.field "name" Json.readString
    |>.field "type" Descriptor.read
    |>.field "required" Json.readBool).read "AttrSchema" false

def BlockSchema.readNode (nested : Json.Reader ObjectSchema) : Json.Reader BlockSchema :=
  ((Json.Fields.pure BlockSchema.mk)
    |>.field "name" Json.readString
    |>.field "nested" nested
    |>.field "required" Json.readBool).read "BlockSchema" false

namespace ObjectSchema

/-- Reads a schema with a reader for the schemas nested in its blocks. -/
def readNode (nested : Json.Reader ObjectSchema) : Json.Reader ObjectSchema :=
  ((Json.Fields.pure ObjectSchema.mk)
    |>.optional "attributes" (Json.readDict AttrSchema.read) []
    |>.optional "blocks" (Json.readDict (BlockSchema.readNode nested)) []).read "ObjectSchema" false

/-- Reads a schema whose blocks nest at most so many levels. -/
def readWithin : Nat → Json.Reader ObjectSchema
  | 0 => fun v => .error (.expected "struct ObjectSchema" v)
  | levels + 1 => readNode (readWithin levels)

/-- Reads a schema; the levels of the value bound those of its blocks. -/
def read : Json.Reader ObjectSchema := fun v => readWithin (v.depth + 1) v

end ObjectSchema

end ProviderLink
