/-
Types described as data. Two grammars are read. In the constraint
grammar a leaf is an object with a string `type` and a `required`
member, and a key/value map is an object, no leaf itself, whose members
are all leaves. In the marker grammar every node carries a `type_name`,
and the root is an `object`. A value of either constraint shape is read
by the first grammar, whatever else it carries; only then does a
`type_name` lead to the second. The first node that is malformed refuses
the whole.
-/
import ProviderLink.Descriptor
import ProviderLink.ProviderError
import ProviderLink.Text.Quoted

namespace ProviderLink.Descriptor

-- ============================================================== shapes

/-- A leaf of the constraint grammar: a string `type` and a `required` member. A map whose
fields happen to be named so is none. -/
def isConstraint : Json → Bool
  | .object members =>
    ((Dict.get? "type" members).bind Json.string?).isSome && Dict.has "required" members
  | _ => false

/-- A key/value map: an object that is no leaf and whose every member is one. -/
def isKeyValue : Json → Bool
  | .object members =>
    !isConstraint (.object members) && members.all fun member => isConstraint member.2
  | _ => false

/-- A node of the constraint grammar. -/
def isFormat (v : Json) : Bool := isConstraint v || isKeyValue v

-- ============================================================== faults

/-- What is wrong with a node. -/
inductive NodeFault
  | noShape
  | typeNotString
  | listWithoutChildren
  | objectWithoutChildren
  | childrenNotKeyValue
  | unsupported (type : String)
  | notObject
  | typeNameNotString
  | rootNotObject
  | nestedValuesMissing
  | internalTypeMissing (type : String)
  | schemaNotKeyValue
  | requiredNotBool
  deriving DecidableEq, Repr

/-- The wording of what is wrong with a node. -/
def NodeFault.text : NodeFault → String
  | noShape => "value is neither a constraint leaf nor a key/value map"
  | typeNotString => "type must be a string"
  | listWithoutChildren => "list node requires children"
  | objectWithoutChildren => "object node requires children"
  | childrenNotKeyValue => "object children must be a key/value map"
  | unsupported type => "unsupported type " ++ Text.quoted type
  | notObject => "type node must be an object"
  | typeNameNotString => "type_name must be a string"
  | rootNotObject => "root type must be an object"
  | nestedValuesMissing => "objects must have a nested_values attribute set to an object value"
  | internalTypeMissing type =>
    type ++ " must have an internal_type attribute set to an object value"
  | schemaNotKeyValue => "schema root must be a key/value map"
  | requiredNotBool => "required must be a bool"

/-- A malformed node and where it is. -/
structure Malformed where
  path : Path
  fault : NodeFault
  deriving DecidableEq, Repr

/-- The message of a malformed node. -/
def Malformed.message (m : Malformed) : String := m.path.text ++ ": " ++ m.fault.text

/-- The failure as which a malformed node is reported. -/
def Malformed.error (m : Malformed) : ProviderError := .invalidTypeRepresentation m.message

-- ================================================== constraint grammar

mutual

/-- Reads a node of the constraint grammar. -/
def ofFormat : Path → Json → Except Malformed Descriptor
  | path, .object members =>
    if isKeyValue (.object members) then (ofMembers path members).map object
    else match (Dict.get? "type" members).bind Json.string? with
    | none => .error ⟨path, .noShape⟩
    | some type =>
      if !Dict.has "required" members then .error ⟨path, .noShape⟩
      else match Primitive.ofName? type with
      | some kind => .ok (primitive kind)
      | none =>
        if type = "list" then ofListChildren path members
        else if type = "object" then ofObjectChildren path members
        else .error ⟨path, .unsupported type⟩
  | path, .null | path, .bool _ | path, .number _ | path, .string _ | path, .array _ =>
    .error ⟨path, .noShape⟩
termination_by structural _ v => v

/-- Reads the members of a key/value map. -/
def ofMembers : Path → List (String × Json) → Except Malformed (List (String × Descriptor))
  | _, [] => .ok []
  | path, (name, v) :: rest => do
    let type ← ofFormat (path.member name) v
    return (name, type) :: (← ofMembers path rest)
termination_by structural _ members => members

/-- Reads the `children` among the members of a `list` leaf. -/
def ofListChildren : Path → List (String × Json) → Except Malformed Descriptor
  | path, [] => .error ⟨path, .listWithoutChildren⟩
  | path, (name, v) :: rest =>
    if name = "children" then (ofFormat (path.member "children") v).map fun t => list (some t)
    else ofListChildren path rest
termination_by structural _ members => members

/-- Reads the `children` among the members of an `object` leaf. -/
def ofObjectChildren : Path → List (String × Json) → Except Malformed Descriptor
  | path, [] => .error ⟨path, .objectWithoutChildren⟩
  | path, (name, v) :: rest =>
    if name = "children" then
      if isKeyValue v then ofFormat (path.member "children") v
      else .error ⟨path.member "children", .childrenNotKeyValue⟩
    else ofObjectChildren path rest
termination_by structural _ members => members

end

-- ====================================================== marker grammar

mutual

/-- Reads a node of the marker grammar. -/
def ofMarker : Path → Json → Except Malformed Descriptor
  | path, .object members =>
    match Dict.get? "type_name" members with
    | some (.string type) =>
      match Primitive.ofName? type with
      | some kind => .ok (primitive kind)
      | none =>
        if type = "object" then ofNestedValues path members
        else if type = "map" then
          (ofInternalType path type members).map fun t => map (some t)
        else if type = "list" then
          (ofInternalType path type members).map fun t => list (some t)
        else if type = "dynamic" then .ok dynamic
        else .error ⟨path, .unsupported type⟩
    | _ => .error ⟨path, .typeNameNotString⟩
  | path, .null | path, .bool _ | path, .number _ | path, .string _ | path, .array _ =>
    .error ⟨path, .notObject⟩
termination_by structural _ v => v

/-- Reads the `nested_values` among the members of an `object` node. -/
def ofNestedValues : Path → List (String × Json) → Except Malformed Descriptor
  | path, [] => .error ⟨path, .nestedValuesMissing⟩
  | path, (name, v) :: rest =>
    if name = "nested_values" then ofNested path v else ofNestedValues path rest
termination_by structural _ members => members

/-- Reads the value of `nested_values`. -/
def ofNested : Path → Json → Except Malformed Descriptor
  | path, .object members => (ofMarkerMembers path members).map object
  | path, .null | path, .bool _ | path, .number _ | path, .string _ | path, .array _ =>
    .error ⟨path, .nestedValuesMissing⟩
termination_by structural _ v => v

/-- Reads the members of `nested_values`. -/
def ofMarkerMembers : Path → List (String × Json) → Except Malformed (List (String × Descriptor))
  | _, [] => .ok []
  | path, (name, v) :: rest => do
    let type ← ofMarker (path.member name) v
    return (name, type) :: (← ofMarkerMembers path rest)
termination_by structural _ members => members

/-- Reads the `internal_type` among the members of a `map` or `list` node. -/
def ofInternalType : Path → String → List (String × Json) → Except Malformed Descriptor
  | path, type, [] => .error ⟨path, .internalTypeMissing type⟩
  | path, type, (name, v) :: rest =>
    if name = "internal_type" then
      match v with
      | .object members => ofMarker (path.member "internal_type") (.object members)
      | _ => .error ⟨path, .internalTypeMissing type⟩
    else ofInternalType path type rest
termination_by structural _ _ members => members

end

-- ================================================================ both

/-- The root of the marker grammar is an `object`, which is asked before anything else of it. -/
def ofMarkerRoot (v : Json) : Except Malformed Descriptor :=
  match v.text? "type_name" with
  | some type => if type = "object" then ofMarker .root v else .error ⟨.root, .rootNotObject⟩
  | none => .error ⟨.root, .typeNameNotString⟩

/-- Reads a type described as data. -/
def ofValue (v : Json) : Except Malformed Descriptor :=
  if isFormat v then ofFormat .root v
  else if (v.member? "type_name").isSome then ofMarkerRoot v
  else .error ⟨.root, .noShape⟩

/-- A type described as data, or the failure that its first malformed node is. -/
def decode (v : Json) : Outcome Descriptor := (ofValue v).mapError Malformed.error

end ProviderLink.Descriptor
