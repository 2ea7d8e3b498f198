/-
Reading TOML values from JSON values. There is no TOML value for `null`
nor for an integer over 63 bits; an object whose first member is named
as the text of a date-time stands for one, and has no other member then.
-/
import ProviderLink.Json.Reading
import ProviderLink.Toml

namespace ProviderLink.Toml

/-- Reads the text of a date-time. -/
def readDateTime : Json.Reader DateTime
  | .string s =>
    match DateTime.ofText? s with
    | some d => .ok d
    | none => .error (.other "failed to parse datetime")
  | v => .error (.expected "string containing a datetime" v)

mutual

/-- Reads a value. -/
def read : Json → Except Json.Fault Toml
  | .null => .error (.expected "any valid TOML value" .null)
  | .bool b => .ok (.boolean b)
  | .number (.int i _) =>
    if i < 0x8000000000000000 then .ok (.integer (Int64.ofInt i))
    else .error (.other "u64 value was too large")
  | .number (.float x) => .ok (.float (some x))
  | .string s => .ok (.string s)
  | .array items => do return .array (← readItems items)
  | .object members =>
    match members with
    | [] => .ok (.table [])
    | (key, v) :: rest =>
      if key = marker then do
        let d ← readDateTime v
        if rest ≠ [] then throw (.wrongLength (rest.length + 1) "fewer elements in map")
        return .datetime d
      else do
        let first ← read v
        return .table ((key, first) :: (← readMembers rest))

/-- Reads the items of an array. -/
def readItems : List Json → Except Json.Fault (List Toml)
  | [] => .ok []
  | v :: rest => do
    let x ← read v
    return x :: (← readItems rest)

/-- Reads the members of an object. -/
def readMembers : List (String × Json) → Except Json.Fault (List (String × Toml))
  | [] => .ok []
  | (key, v) :: rest => do
    let x ← read v
    return (key, x) :: (← readMembers rest)

end

/-- Reads a table that is not itself a date-time. -/
def readTable : Json.Reader (Dict String Toml)
  | .object members => readMembers members
  | v => .error (.expected "a map" v)

end ProviderLink.Toml
