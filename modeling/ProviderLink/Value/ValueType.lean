/-
The types of dynamic values, and conforming to one. `conform` checks a
value against a type and returns its normal form: a member that an
object type names and the value lacks is filled in as `null`, and
nothing else is added, dropped, reordered or changed. A value that does
not fit is blamed at its first violation: at an object-typed place the
smallest member the type does not name comes before any named one, then
members go in key order and items by index.
-/
import ProviderLink.Text.Quoted
import ProviderLink.Value.Path

namespace ProviderLink

/-- The type of a dynamic value. -/
inductive ValueType
  | string
  | number
  | bool
  /-- Objects whose members are among the named fields. -/
  | object (fields : List (String × ValueType))
  /-- Objects with any members, all of one type. -/
  | map (element : ValueType)
  | list (element : ValueType)
  /-- No type: any value. -/
  | nil

namespace ValueType

/-- Whether this is the type without constraint. -/
def isNil : ValueType → Bool
  | nil => true
  | _ => false

/-- The name of a type in messages. -/
def text : ValueType → String
  | string => "string"
  | number => "number"
  | bool => "bool"
  | object _ => "object"
  | map element => "map of " ++ element.text
  | list element => "list of " ++ element.text
  | nil => "any value"

end ValueType

/-- The name of a value's kind in messages. -/
def Json.kindText : Json → String
  | .null => "null"
  | .bool _ => "bool"
  | .number _ => "number"
  | .string _ => "string"
  | .array _ => "list"
  | .object _ => "object"

/-- What is wrong at a place of a value. -/
inductive Violation
  /-- A member that the object type does not name. -/
  | unexpectedAttribute (name : String)
  | wrongKind (expected : ValueType) (found : Json)

/-- The first violation of a value and where it is. -/
structure Mismatch where
  path : Path
  violation : Violation

namespace Mismatch

def message (m : Mismatch) : String :=
  match m.violation with
  | .unexpectedAttribute name => m.path.text ++ ": unexpected attribute " ++ Text.quoted name
  | .wrongKind expected found =>
    m.path.text ++ ": expected " ++ expected.text ++ ", found " ++ found.kindText

end Mismatch

namespace ValueType

/-- The first member that the fields do not name. -/
def unnamed? (fields : List (String × ValueType)) (members : List (String × Json)) :
    Option String :=
  (Dict.keys members).find? fun name => !Dict.has name fields

/-- Conforms every member in order. -/
def conformMembers (conform : Path → Json → Except Mismatch Json) (path : Path) :
    List (String × Json) → Except Mismatch (List (String × Json))
  | [] => .ok []
  | (name, v) :: rest => do
    let v' ← conform (path.member name) v
    return (name, v') :: (← conformMembers conform path rest)

/-- Conforms every item in order, the first at an index. -/
def conformItems (conform : Path → Json → Except Mismatch Json) (path : Path) :
    Nat → List Json → Except Mismatch (List Json)
  | _, [] => .ok []
  | index, v :: rest => do
    let v' ← conform (path.item index) v
    return v' :: (← conformItems conform path (index + 1) rest)

mutual

/-- The normal form of a value at a path, or its first violation. -/
def conformAt : ValueType → Path → Json → Except Mismatch Json
  | _, _, .null => .ok .null
  | nil, _, v => .ok v
  | string, _, .string s => .ok (.string s)
  | number, _, .number n => .ok (.number n)
  | bool, _, .bool b => .ok (.bool b)
  | object fields, path, .object members =>
    match unnamed? fields members with
    | some name => .error ⟨path, .unexpectedAttribute name⟩
    | none => (conformFields fields path members).map .object
  | map element, path, .object members =>
    (conformMembers (fun p v => conformAt element p v) path members).map .object
  | list element, path, .array items =>
    (conformItems (fun p v => conformAt element p v) path 0 items).map .array
  | expected, path, v => .error ⟨path, .wrongKind expected v⟩
termination_by structural type => type

/-- Every field in order, an absent member being `null`. -/
def conformFields :
    List (String × ValueType) → Path → List (String × Json) →
      Except Mismatch (List (String × Json))
  | [], _, _ => .ok []
  | (name, type) :: rest, path, members => do
    let v ← conformAt type (path.member name) (Json.orNull (Dict.get? name members))
    return (name, v) :: (← conformFields rest path members)
termination_by structural fields => fields

end

/-- The normal form of a value, or its first violation. -/
def conform (type : ValueType) (v : Json) : Except Mismatch Json := conformAt type .root v

mutual

/-- Field names strictly increase at every level. -/
def Ordered : ValueType → Prop
  | object fields => Dict.Sorted fields ∧ OrderedFields fields
  | map element | list element => Ordered element
  | string | number | bool | nil => True

/-- Field names strictly increase inside every field. -/
def OrderedFields : List (String × ValueType) → Prop
  | [] => True
  | (_, type) :: rest => Ordered type ∧ OrderedFields rest

end

end ValueType

end ProviderLink
