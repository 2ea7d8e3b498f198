/-
Presence. A required attribute or block must be there and not `null`; a
block that is there is held to its own schema. What is missing is
reported in key order, attributes before blocks.
-/
import ProviderLink.Schema

namespace ProviderLink.ObjectSchema

/-- What is missing of an object. -/
inductive Missing
  /-- The value is no object at all. -/
  | object
  | attribute (name : String)
  | block (name : String)
  deriving DecidableEq, Repr

/-- Something missing and the path of the object that lacks it. -/
structure Absence where
  path : Path
  missing : Missing
  deriving DecidableEq, Repr

/-- The message of something missing. -/
def Absence.message (a : Absence) : String :=
  match a.missing with
  | .object => a.path.text ++ ": expected object"
  | .attribute name => a.path.text ++ ": missing required attribute " ++ Text.quoted name
  | .block name => a.path.text ++ ": missing required block " ++ Text.quoted name

/-- The member of this name, unless it is `null`. -/
def present? (name : String) (members : List (String × Json)) : Option Json :=
  match Dict.get? name members with
  | some .null => none
  | found => found

/-- The first required attribute that the members lack. -/
def checkAttributes (path : Path) (members : List (String × Json)) :
    List (String × AttrSchema) → Except Absence Unit
  | [] => .ok ()
  | (name, a) :: rest =>
    if a.required && (present? name members).isNone then .error ⟨path, .attribute name⟩
    else checkAttributes path members rest

mutual

/-- The first thing that the value at a path lacks. -/
def checkRequiredAt : Path → ObjectSchema → Json → Except Absence Unit
  | path, ⟨attributes, blocks⟩, .object members => do
    checkAttributes path members attributes
    checkBlocks path blocks members
  | path, _, _ => .error ⟨path, .object⟩
termination_by structural _ s => s

/-- The first thing that the members lack in their blocks. -/
def checkBlocks :
    Path → List (String × BlockSchema) → List (String × Json) → Except Absence Unit
  | _, [], _ => .ok ()
  | path, (name, ⟨_, nested, required⟩) :: rest, members => do
    match present? name members with
    | some v => checkRequiredAt (path.member name) nested v
    | none => if required then throw ⟨path, .block name⟩ else .ok ()
    checkBlocks path rest members
termination_by structural _ blocks => blocks

end

/-- The first thing that a value lacks of what the schema requires. -/
def checkRequired (s : ObjectSchema) (v : Json) : Except Absence Unit :=
  checkRequiredAt .root s v

end ProviderLink.ObjectSchema
