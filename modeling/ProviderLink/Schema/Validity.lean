/-
Valid schemas. An entry is keyed by its own name, a name is not blank,
no name is both an attribute's and a block's, and no attribute's type
holds an `invalid` node, at every level. Entries are looked at in key
order, attributes before blocks, and the first that fails is reported.
-/
import ProviderLink.Schema
import ProviderLink.Text.Character

namespace ProviderLink.ObjectSchema

/-- What is wrong with an entry of a schema. -/
inductive EntryFault
  | blankName
  | keyedOtherwise (key name : String)
  | invalidType (key : String)
  | sharedName (key : String)
  deriving DecidableEq, Repr

/-- A faulty entry and the path of the schema it stands in. -/
structure Flaw where
  path : Path
  fault : EntryFault
  deriving DecidableEq, Repr

/-- The message of a faulty entry. -/
def Flaw.message (f : Flaw) : String :=
  match f.fault with
  | .blankName => f.path.text ++ ": entry names must not be empty"
  | .keyedOtherwise key name =>
    f.path.text ++ ": entry keyed " ++ Text.quoted key ++ " is named " ++ Text.quoted name
  | .invalidType key => (f.path.member key).text ++ ": attribute type contains an invalid node"
  | .sharedName key =>
    (f.path.member key).text ++ ": name is used by both an attribute and a block"

/-- The name of an entry is not blank and is its key. -/
def validateName (path : Path) (key name : String) : Except Flaw Unit :=
  if Text.allBlank name then .error ⟨path, .blankName⟩
  else if key ≠ name then .error ⟨path, .keyedOtherwise key name⟩
  else .ok ()

/-- Every attribute in key order. -/
def validateAttributes (path : Path) : List (String × AttrSchema) → Except Flaw Unit
  | [] => .ok ()
  | (key, a) :: rest => do
    validateName path key a.name
    if a.type.containsInvalid then throw ⟨path, .invalidType key⟩
    validateAttributes path rest

mutual

/-- Every entry of the schema at a path. -/
def validateAt : Path → ObjectSchema → Except Flaw Unit
  | path, ⟨attributes, blocks⟩ => do
    validateAttributes path attributes
    validateBlocks path attributes blocks
termination_by structural _ s => s

/-- Every block in key order. -/
def validateBlocks :
    Path → List (String × AttrSchema) → List (String × BlockSchema) → Except Flaw Unit
  | _, _, [] => .ok ()
  | path, attributes, (key, ⟨name, nested, _⟩) :: rest => do
    validateName path key name
    if Dict.has key attributes then throw ⟨path, .sharedName key⟩
    validateAt (path.member key) nested
    validateBlocks path attributes rest
termination_by structural _ _ blocks => blocks

end

/-- The first fault of a schema, if it has one. -/
def validate (s : ObjectSchema) : Except Flaw Unit := validateAt .root s

end ProviderLink.ObjectSchema
