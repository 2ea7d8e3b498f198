/-
Schemas of configuration objects. A schema names the typed attributes an
object may have and the blocks nested in it, each of which is required
or not. The type it implies has one field for each; where an attribute
and a block share a name the block has it, though a valid schema has no
such name.
-/
import ProviderLink.Descriptor

namespace ProviderLink

/-- One typed attribute. -/
structure AttrSchema where
  name : String
  type : Descriptor
  required : Bool
  deriving DecidableEq

mutual

/-- The attributes and the blocks of a configuration object. -/
structure ObjectSchema where
  attributes : List (String × AttrSchema)
  blocks : List (String × BlockSchema)

/-- One nested block. -/
structure BlockSchema where
  name : String
  nested : ObjectSchema
  required : Bool

end

namespace ObjectSchema

/-- The schema of objects without members. -/
def empty : ObjectSchema := ⟨[], []⟩

/-- Whether nothing is named. -/
def isEmpty (s : ObjectSchema) : Bool := s.attributes.isEmpty && s.blocks.isEmpty

/-- One more attribute, under its own name. -/
def withAttribute (s : ObjectSchema) (a : AttrSchema) : ObjectSchema :=
  ⟨Dict.insert a.name a s.attributes, s.blocks⟩

/-- One more block, under its own name. -/
def withBlock (s : ObjectSchema) (b : BlockSchema) : ObjectSchema :=
  ⟨s.attributes, Dict.insert b.name b s.blocks⟩

-- ======================================================== implied type

def attributeTypes (attributes : List (String × AttrSchema)) : List (String × Descriptor) :=
  attributes.map fun a => (a.1, a.2.type)

mutual

def impliedType : ObjectSchema → Descriptor
  | ⟨attributes, blocks⟩ =>
    .object (Dict.ofList (attributeTypes attributes ++ blockTypes blocks))

/-- The type implied by each block. -/
def blockTypes : List (String × BlockSchema) → List (String × Descriptor)
  | [] => []
  | (name, ⟨_, nested, _⟩) :: rest => (name, nested.impliedType) :: blockTypes rest

end

mutual

/-- Attribute and block keys strictly increase at every level, and so do the field names of
every attribute's type. -/
def Ordered : ObjectSchema → Prop
  | ⟨attributes, blocks⟩ =>
    (Dict.Sorted attributes ∧ ∀ a ∈ attributes, a.2.type.Ordered) ∧
      Dict.Sorted blocks ∧ OrderedBlocks blocks

/-- Every block's nested schema is ordered. -/
def OrderedBlocks : List (String × BlockSchema) → Prop
  | [] => True
  | (_, ⟨_, nested, _⟩) :: rest => nested.Ordered ∧ OrderedBlocks rest

end

end ObjectSchema

end ProviderLink
