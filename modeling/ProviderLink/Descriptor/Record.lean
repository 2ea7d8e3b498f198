/-
The record form of a descriptor: its type name, the nested values of an
object and the internal type of a map or list. Writing gives an object
its nested values even when it has none, and a map or list an internal
type only when it says its element. Reading takes the children first and
then asks whether a node of this name may have them.
-/
import ProviderLink.Descriptor
import ProviderLink.Json.Reading

namespace ProviderLink.Descriptor

-- ============================================================= writing

mutual

def toJson : Descriptor → Json
  | object fields =>
    .object [("type_name", .string "object"), ("nested_values", .object (fieldsToJson fields))]
  | map (some element) =>
    .object [("type_name", .string "map"), ("internal_type", element.toJson)]
  | list (some element) =>
    .object [("type_name", .string "list"), ("internal_type", element.toJson)]
  | primitive kind => .object [("type_name", .string kind.name)]
  | map none => .object [("type_name", .string "map")]
  | list none => .object [("type_name", .string "list")]
  | dynamic => .object [("type_name", .string "dynamic")]
  | invalid => .object [("type_name", .string "invalid")]

def fieldsToJson : List (String × Descriptor) → List (String × Json)
  | [] => []
  | (name, type) :: rest => (name, type.toJson) :: fieldsToJson rest

end

-- ============================================================= reading

/-- The three fields of the record. -/
structure Record where
  typeName : String
  nestedValues : Option (Dict String Descriptor)
  internalType : Option Descriptor

/-- Why a record is not that of a descriptor. -/
inductive RecordFault
  | nestedValuesOn (typeName : String)
  | internalTypeOn (typeName : String)
  | unknownName (typeName : String)
  deriving DecidableEq, Repr

def RecordFault.message : RecordFault → String
  | nestedValuesOn name => name ++ " type must not carry nested_values"
  | internalTypeOn name => name ++ " type must not carry internal_type"
  | unknownName name => "unknown type name " ++ Text.quoted name

def Record.toDescriptor (r : Record) : Except RecordFault Descriptor :=
  if r.typeName ≠ "object" ∧ r.nestedValues.isSome then .error (.nestedValuesOn r.typeName)
  else if r.typeName ≠ "map" ∧ r.typeName ≠ "list" ∧ r.internalType.isSome then
    .error (.internalTypeOn r.typeName)
  else match Primitive.ofName? r.typeName with
  | some kind => .ok (primitive kind)
  | none =>
    if r.typeName = "object" then .ok (object (r.nestedValues.getD []))
    else if r.typeName = "map" then .ok (map r.internalType)
    else if r.typeName = "list" then .ok (list r.internalType)
    else if r.typeName = "dynamic" then .ok dynamic
    else if r.typeName = "invalid" then .ok invalid
    else .error (.unknownName r.typeName)

/-- The record's fields, with a reader for children. -/
def recordFields (child : Json.Reader Descriptor) : Json.Fields Record :=
  (Json.Fields.pure Record.mk)
    |>.field "type_name" Json.readString
    |>.optional "nested_values" (Json.readOption (Json.readDict child)) none
    |>.optional "internal_type" (Json.readOption child) none

/-- The start of every message about a type that is not well formed. -/
def badType (message : String) : String := "invalid type representation: " ++ message

def readNode (child : Json.Reader Descriptor) : Json.Reader Descriptor := fun v => do
  let record ← (recordFields child).read "WireType" false v
  match record.toDescriptor with
  | .ok t => .ok t
  | .error fault => .error (.other (badType fault.message))

/-- Reads a descriptor of at most so many levels. -/
def readWithin : Nat → Json.Reader Descriptor
  | 0 => fun v => .error (.expected "struct WireType" v)
  | levels + 1 => readNode (readWithin levels)

/-- Reads a descriptor; the levels of the value bound those of the descriptor. -/
def read : Json.Reader Descriptor := fun v => readWithin (v.depth + 1) v

end ProviderLink.Descriptor
