/-
Whether tables are ordered can be computed, at every level of a value, of
a descriptor and of a schema. The three go along the definitions of what
is decided, each with its companion for a list of entries.
-/
import ProviderLink.Schema

namespace ProviderLink

-- =============================================================== values

namespace Json

mutual

def decOrdered : (v : Json) → Decidable v.Ordered
  | array items => decOrderedItems items
  | object members =>
    have := decOrderedMembers members
    inferInstanceAs (Decidable (Dict.Sorted members ∧ OrderedMembers members))
  | null | bool _ | number _ | string _ => isTrue trivial

def decOrderedItems : (items : List Json) → Decidable (OrderedItems items)
  | [] => isTrue trivial
  | v :: rest =>
    have := decOrdered v
    have := decOrderedItems rest
    inferInstanceAs (Decidable (v.Ordered ∧ OrderedItems rest))

def decOrderedMembers : (members : List (String × Json)) → Decidable (OrderedMembers members)
  | [] => isTrue trivial
  | (_, v) :: rest =>
    have := decOrdered v
    have := decOrderedMembers rest
    inferInstanceAs (Decidable (v.Ordered ∧ OrderedMembers rest))

end

instance : DecidablePred Ordered := decOrdered

end Json

-- ========================================================== descriptors

namespace Descriptor

mutual

def decOrdered : (t : Descriptor) → Decidable t.Ordered
  | object fields =>
    have := decOrderedFields fields
    inferInstanceAs (Decidable (Dict.Sorted fields ∧ OrderedFields fields))
  | map (some element) | list (some element) => decOrdered element
  | primitive _ | map none | list none | dynamic | invalid => isTrue trivial

def decOrderedFields : (fields : List (String × Descriptor)) → Decidable (OrderedFields fields)
  | [] => isTrue trivial
  | (_, type) :: rest =>
    have := decOrdered type
    have := decOrderedFields rest
    inferInstanceAs (Decidable (type.Ordered ∧ OrderedFields rest))

end

instance : DecidablePred Ordered := decOrdered

end Descriptor

-- ============================================================== schemas

namespace ObjectSchema

mutual

def decOrdered : (s : ObjectSchema) → Decidable s.Ordered
  | ⟨attributes, blocks⟩ =>
    have := decOrderedBlocks blocks
    inferInstanceAs (Decidable
      ((Dict.Sorted attributes ∧ ∀ a ∈ attributes, a.2.type.Ordered) ∧
        Dict.Sorted blocks ∧ OrderedBlocks blocks))

def decOrderedBlocks : (blocks : List (String × BlockSchema)) → Decidable (OrderedBlocks blocks)
  | [] => isTrue trivial
  | (_, ⟨_, nested, _⟩) :: rest =>
    have := decOrdered nested
    have := decOrderedBlocks rest
    inferInstanceAs (Decidable (nested.Ordered ∧ OrderedBlocks rest))

end

instance : DecidablePred Ordered := decOrdered

end ObjectSchema

end ProviderLink
