/-
Type descriptors: the types by which a provider declares what it takes
and what it returns. A descriptor differs from the type of dynamic
values it stands for in three ways: a map or list may leave its element
unsaid and then holds strings; `dynamic` says that any value will do;
and `invalid` marks a type that could not be made out, which a valid
declaration never holds.
-/
import ProviderLink.Value.ValueType

namespace ProviderLink

/-- A scalar kind. -/
inductive Primitive
  | string
  | number
  | bool
  deriving DecidableEq, Repr

/-- A declared type. -/
inductive Descriptor
  | primitive (kind : Primitive)
  | object (fields : List (String × Descriptor))
  | map (element : Option Descriptor)
  | list (element : Option Descriptor)
  | dynamic
  | invalid

namespace Primitive

/-- The name of a scalar kind. -/
def name : Primitive → String
  | string => "string"
  | number => "number"
  | bool => "bool"

/-- The scalar kind of a name. -/
def ofName? (s : String) : Option Primitive :=
  if s = "string" then some string
  else if s = "number" then some number
  else if s = "bool" then some bool
  else none

theorem ofName?_name (p : Primitive) : ofName? p.name = some p := by
  cases p <;> rfl

/-- The scalar kind as a type of dynamic values. -/
def valueType : Primitive → ValueType
  | string => .string
  | number => .number
  | bool => .bool

end Primitive

namespace Descriptor

-- ============================================================ equality

mutual

/-- Decides whether two descriptors are the same. -/
def decEq : (t u : Descriptor) → Decidable (t = u)
  | primitive a, primitive b => if h : a = b then isTrue (by rw [h]) else isFalse (by simpa)
  | object a, object b =>
    match decEqFields a b with
    | isTrue h => isTrue (by rw [h])
    | isFalse h => isFalse (by simpa)
  | map a, map b =>
    match decEqElement a b with
    | isTrue h => isTrue (by rw [h])
    | isFalse h => isFalse (by simpa)
  | list a, list b =>
    match decEqElement a b with
    | isTrue h => isTrue (by rw [h])
    | isFalse h => isFalse (by simpa)
  | dynamic, dynamic => isTrue rfl
  | invalid, invalid => isTrue rfl
  | primitive _, object _ | primitive _, map _ | primitive _, list _ | primitive _, dynamic
  | primitive _, invalid
  | object _, primitive _ | object _, map _ | object _, list _ | object _, dynamic
  | object _, invalid
  | map _, primitive _ | map _, object _ | map _, list _ | map _, dynamic | map _, invalid
  | list _, primitive _ | list _, object _ | list _, map _ | list _, dynamic | list _, invalid
  | dynamic, primitive _ | dynamic, object _ | dynamic, map _ | dynamic, list _
  | dynamic, invalid
  | invalid, primitive _ | invalid, object _ | invalid, map _ | invalid, list _
  | invalid, dynamic => isFalse (by simp)

/-- Decides whether two elements are the same. -/
def decEqElement : (t u : Option Descriptor) → Decidable (t = u)
  | none, none => isTrue rfl
  | some t, some u =>
    match decEq t u with
    | isTrue h => isTrue (by rw [h])
    | isFalse h => isFalse (by simpa)
  | none, some _ | some _, none => isFalse (by simp)

/-- Decides whether two lists of fields are the same. -/
def decEqFields : (xs ys : List (String × Descriptor)) → Decidable (xs = ys)
  | [], [] => isTrue rfl
  | (j, x) :: xs, (k, y) :: ys =>
    if hk : j = k then
      match decEq x y, decEqFields xs ys with
      | isTrue h, isTrue h' => isTrue (by rw [hk, h, h'])
      | isFalse h, _ => isFalse (by simp [h])
      | _, isFalse h => isFalse (by simp [h])
    else isFalse (by simp [hk])
  | [], _ :: _ | _ :: _, [] => isFalse (by simp)

end

instance : DecidableEq Descriptor := decEq

-- ============================================================== naming

/-- The type name of a node. -/
def typeName : Descriptor → String
  | primitive kind => kind.name
  | object _ => "object"
  | map _ => "map"
  | list _ => "list"
  | dynamic => "dynamic"
  | invalid => "invalid"

mutual

def text : Descriptor → String
  | map (some element) => "map(" ++ element.text ++ ")"
  | list (some element) => "list(" ++ element.text ++ ")"
  | object fields => "object\x7b" ++ ", ".intercalate (fieldTexts fields) ++ "\x7d"
  | map none => "map"
  | list none => "list"
  | primitive kind => kind.name
  | dynamic => "dynamic"
  | invalid => "invalid"

def fieldTexts : List (String × Descriptor) → List String
  | [] => []
  | (name, type) :: rest => (name ++ ": " ++ type.text) :: fieldTexts rest

end

-- ============================================================= invalid

mutual

/-- Whether an `invalid` node stands anywhere in the descriptor. -/
def containsInvalid : Descriptor → Bool
  | invalid => true
  | object fields => anyInvalid fields
  | map (some element) | list (some element) => element.containsInvalid
  | primitive _ | map none | list none | dynamic => false

/-- Whether a field holds an `invalid` node. -/
def anyInvalid : List (String × Descriptor) → Bool
  | [] => false
  | (_, type) :: rest => type.containsInvalid || anyInvalid rest

end

-- ======================================================== value types

mutual

/-- The type of dynamic values that a descriptor stands for. -/
def toValueType : Descriptor → ValueType
  | primitive kind => kind.valueType
  | object fields => .object (fieldValueTypes fields)
  | map (some element) => .map element.toValueType
  | map none => .map .string
  | list (some element) => .list element.toValueType
  | list none => .list .string
  | dynamic | invalid => .nil

def fieldValueTypes : List (String × Descriptor) → List (String × ValueType)
  | [] => []
  | (name, type) :: rest => (name, type.toValueType) :: fieldValueTypes rest

end

mutual

/-- The descriptor of a type of dynamic values. -/
def ofValueType : ValueType → Descriptor
  | .string => primitive .string
  | .number => primitive .number
  | .bool => primitive .bool
  | .object fields => object (ofFieldValueTypes fields)
  | .map element => map (some (ofValueType element))
  | .list element => list (some (ofValueType element))
  | .nil => dynamic

def ofFieldValueTypes : List (String × ValueType) → List (String × Descriptor)
  | [] => []
  | (name, type) :: rest => (name, ofValueType type) :: ofFieldValueTypes rest

end

-- ============================================================= ordered

mutual

/-- Field names strictly increase at every level. -/
def Ordered : Descriptor → Prop
  | object fields => Dict.Sorted fields ∧ OrderedFields fields
  | map (some element) | list (some element) => element.Ordered
  | primitive _ | map none | list none | dynamic | invalid => True

/-- Field names strictly increase inside every field. -/
def OrderedFields : List (String × Descriptor) → Prop
  | [] => True
  | (_, type) :: rest => type.Ordered ∧ OrderedFields rest

end

end Descriptor

end ProviderLink
