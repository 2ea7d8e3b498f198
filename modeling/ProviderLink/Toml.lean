/-
TOML values and the JSON that stands for them. A JSON object has the
members of a table, an array its items, and the scalars are themselves;
a date-time, for which JSON has no value, is an object of one member, and
a float that is not finite is `null`. Inside a table, tables are written
after all that is not one, as a document would have to.
-/
import ProviderLink.Json
import ProviderLink.Toml.DateTime

namespace ProviderLink

/-- A TOML value. -/
inductive Toml
  | string (s : String)
  | integer (i : Int64)
  /-- A float; none of the infinities and what is no number. -/
  | float (x : Option Binary64)
  | boolean (b : Bool)
  | datetime (d : Toml.DateTime)
  | array (items : List Toml)
  | table (entries : List (String × Toml))
  deriving Inhabited

namespace Toml

/-- The name of the member that holds the text of a date-time. -/
def marker : String := "$__toml_private_datetime"

/-- Whether the value is a table. -/
def isTable : Toml → Bool
  | table _ => true
  | _ => false

/-- The places of a table's entries in writing. -/
inductive Place
  | first
  /-- Arrays that hold a table. -/
  | second
  /-- Tables. -/
  | last
  deriving DecidableEq, Repr

/-- Where an entry with this value is written. -/
def place : Toml → Place
  | table _ => .last
  | array items => if items.any isTable then .second else .first
  | _ => .first

mutual

/-- The JSON value of a value. -/
def toJson : Toml → Json
  | string s => .string s
  | integer i => .number (.ofInt64 i)
  | float x => .ofFloat? x
  | boolean b => .bool b
  | datetime d => .object [(marker, .string d.text)]
  | array items => .array (itemsJson items)
  | table entries =>
    .object (placedJson .first entries ++ placedJson .second entries ++ placedJson .last entries)

/-- The JSON values of items. -/
def itemsJson : List Toml → List Json
  | [] => []
  | v :: rest => toJson v :: itemsJson rest

/-- The members of the entries that have this place. -/
def placedJson (p : Place) : List (String × Toml) → List (String × Json)
  | [] => []
  | (key, v) :: rest =>
    if place v = p then (key, toJson v) :: placedJson p rest else placedJson p rest

end

/-- The JSON object of a table that is written by itself, in key order. -/
def entriesJson (entries : Dict String Toml) : Json :=
  .object (entries.map fun e => (e.1, toJson e.2))

end Toml

end ProviderLink
