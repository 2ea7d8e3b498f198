/-
Reading typed records from JSON values. A record has named fields in a
fixed order and is read from an object, or from an array that lists the
fields in that order. Of several faults the first in the reader's order
is reported: an object is gone through in key order, and only then are
missing fields reported, in the order of the record; an array is gone
through item by item, and surplus items are reported last. The faults
are causes; `Fault.message` has all the wording.
-/
import ProviderLink.Base64
import ProviderLink.Json
import ProviderLink.Text.Quoted

namespace ProviderLink.Json

/-- What was found where something else was expected. -/
inductive Unexpected
  | null
  | bool (b : Bool)
  | number (n : Number)
  | string (s : String)
  | sequence
  | map
  deriving DecidableEq

/-- Why a value does not read as what is asked for. -/
inductive Fault
  | missingField (name : String)
  | wrongType (found : Unexpected) (expected : String)
  /-- An integer out of the range asked for. -/
  | outOfRange (value : Int) (expected : String)
  | wrongLength (length : Nat) (expected : String)
  | unknownField (name : String) (known : List String)
  /-- A value of none of the forms of this type. -/
  | noVariant (type : String)
  | base64 (fault : Base64.Fault)
  /-- A fault of the type that is read, in its own words. -/
  | other (message : String)
  deriving DecidableEq

namespace Unexpected

/-- What a value is, where it is not what was expected. -/
def ofJson : Json → Unexpected
  | .null => null
  | .bool b => bool b
  | .number n => number n
  | .string s => string s
  | .array _ => sequence
  | .object _ => map

/-- Its wording. -/
def text : Unexpected → String
  | null => "null"
  | bool b => "boolean `" ++ (if b then "true" else "false") ++ "`"
  | number (.int i h) => "integer `" ++ Number.text (.int i h) ++ "`"
  | number (.float x) => "floating point `" ++ Number.text (.float x) ++ "`"
  | string s => "string " ++ Text.quoted s
  | sequence => "sequence"
  | map => "map"

end Unexpected

namespace Fault

/-- A name between backquotes. -/
def ticked (name : String) : String := "`" ++ name ++ "`"

/-- The names a record has, as the message on an unknown one lists them. -/
def alternatives : List String → String
  | [a] => ticked a
  | [a, b] => ticked a ++ " or " ++ ticked b
  | names => "one of " ++ ", ".intercalate (names.map ticked)

def message : Fault → String
  | missingField name => "missing field " ++ ticked name
  | wrongType found expected => "invalid type: " ++ found.text ++ ", expected " ++ expected
  | outOfRange i expected => "invalid value: integer " ++ ticked (toString i) ++ ", expected " ++ expected
  | wrongLength n expected => "invalid length " ++ toString n ++ ", expected " ++ expected
  | unknownField name known =>
    "unknown field " ++ ticked name ++ ", expected " ++ alternatives known
  | noVariant type => "data did not match any variant of untagged enum " ++ type
  | base64 fault => fault.message
  | other message => message

/-- The fault of a value of the wrong type. -/
def expected (what : String) (v : Json) : Fault := wrongType (.ofJson v) what

end Fault

-- ============================================================= scalars

/-- A function that reads values of a type. -/
abbrev Reader (α : Type) := Json → Except Fault α

def readString : Reader String
  | string s => .ok s
  | v => .error (.expected "a string" v)

def readBool : Reader Bool
  | bool b => .ok b
  | v => .error (.expected "a boolean" v)

/-- An integer in a range with a name. -/
def readInt (low high : Int) (range : String) : Reader Int
  | number (.int i _) => if low ≤ i ∧ i ≤ high then .ok i else .error (.outOfRange i range)
  | v => .error (.expected range v)

/-- An unsigned 32-bit integer. -/
def readUInt32 : Reader UInt32 := fun v =>
  (readInt 0 4294967295 "u32" v).map fun i => i.toNat.toUInt32

/-- A signed 32-bit integer. -/
def readInt32 : Reader Int32 := fun v => (readInt (-2147483648) 2147483647 "i32" v).map Int.toInt32

/-- Nothing: `null` alone. -/
def readUnit : Reader Unit
  | null => .ok ()
  | v => .error (.expected "unit" v)

/-- Bytes, as base64 text. -/
def readBytes : Reader Bytes := fun v => do
  match Base64.decode (← readString v) with
  | .ok bytes => .ok bytes
  | .error fault => .error (.base64 fault)

/-- `null` or what a reader reads. -/
def readOption {α : Type} (read : Reader α) : Reader (Option α)
  | null => .ok none
  | v => (read v).map some

/-- Any value, `null` counting as none. -/
def readAny? : Reader (Option Json)
  | null => .ok none
  | v => .ok (some v)

/-- Every item of a list read in order. -/
def readItems {α : Type} (read : Reader α) : List Json → Except Fault (List α)
  | [] => .ok []
  | v :: rest => do
    let x ← read v
    return x :: (← readItems read rest)

/-- An array of what a reader reads. -/
def readList {α : Type} (read : Reader α) : Reader (List α)
  | array items => readItems read items
  | v => .error (.expected "a sequence" v)

/-- Every member's value read in order. -/
def readMembers {α : Type} (read : Reader α) : List (String × Json) → Except Fault (Dict String α)
  | [] => .ok []
  | (k, v) :: rest => do
    let x ← read v
    return (k, x) :: (← readMembers read rest)

/-- An object whose members are what a reader reads. -/
def readDict {α : Type} (read : Reader α) : Reader (Dict String α)
  | object members => readMembers read members
  | v => .error (.expected "a map" v)

-- ============================================================= records

/-- The fields of a record, which is filled from named values in any order. A value is read as
it is put in, so each is read once, and `finish` makes the record of what is there. -/
structure Fields (α : Type) where
  names : List String
  /-- A record partly filled. -/
  State : Type
  start : State
  /-- Reads a value for the field of a name; a name of no field is passed over. -/
  put : String → Json → State → Except Fault State
  /-- The record, given the fault of a field that is absent, by its place and its name. -/
  finish : State → (Nat → String → Fault) → Except Fault α

namespace Fields

variable {α β : Type}

/-- A record without fields. -/
def pure (x : α) : Fields α := ⟨[], Unit, (), fun _ _ s => .ok s, fun _ _ => .ok x⟩

/-- One more field; `whenAbsent` is its value when it is not given. -/
def andField (fields : Fields (α → β)) (name : String) (read : Reader α)
    (whenAbsent : Option α) : Fields β where
  names := fields.names ++ [name]
  State := fields.State × Option α
  start := (fields.start, whenAbsent)
  put key v state :=
    if key = name then (read v).map fun x => (state.1, some x)
    else (fields.put key v state.1).map fun s => (s, state.2)
  finish state absent := do
    let f ← fields.finish state.1 absent
    match state.2 with
    | some x => return f x
    | none => throw (absent fields.names.length name)

/-- One more field that must be given. -/
def field (fields : Fields (α → β)) (name : String) (read : Reader α) : Fields β :=
  fields.andField name read none

/-- One more field that may be left out. -/
def optional (fields : Fields (α → β)) (name : String) (read : Reader α) (whenAbsent : α) :
    Fields β :=
  fields.andField name read (some whenAbsent)

/-- Puts in the members of an object in order; a name of no field is a fault if `closed`. -/
def putMembers (fields : Fields α) (closed : Bool) :
    List (String × Json) → fields.State → Except Fault fields.State
  | [], state => .ok state
  | (name, v) :: rest, state => do
    if closed && !fields.names.contains name then throw (.unknownField name fields.names)
    putMembers fields closed rest (← fields.put name v state)

/-- The record that an object holds. -/
def ofMembers (fields : Fields α) (closed : Bool) (members : List (String × Json)) :
    Except Fault α := do
  let state ← fields.putMembers closed members fields.start
  fields.finish state fun _ name => .missingField name

/-- Puts in the items of an array, each for the field at its place. -/
def putItems (fields : Fields α) :
    List String → List Json → fields.State → Except Fault fields.State
  | name :: names, v :: rest, state => do
    putItems fields names rest (← fields.put name v state)
  | _, _, state => .ok state

/-- How many fields the message of a wrong length speaks of. -/
def countText (fields : Fields α) (type : String) : String :=
  let n := fields.names.length
  "struct " ++ type ++ " with " ++ toString n ++ (if n = 1 then " element" else " elements")

/-- The record that an array lists. -/
def ofItems (fields : Fields α) (type : String) (items : List Json) : Except Fault α := do
  let state ← fields.putItems fields.names items fields.start
  let record ← fields.finish state fun place _ => .wrongLength place (fields.countText type)
  if fields.names.length < items.length then
    throw (.wrongLength items.length "fewer elements in array")
  return record

/-- Reads a record of a type with a name from an object or an array. -/
def read (fields : Fields α) (type : String) (closed : Bool) : Reader α
  | .object members => fields.ofMembers closed members
  | .array items => fields.ofItems type items
  | v => .error (.expected ("struct " ++ type) v)

end Fields

end ProviderLink.Json
