/-
A schema level by level. A level is the schema itself or one that is
nested in its blocks, to any depth (`Inside`). A schema is valid exactly
if each of its levels is in order (`valid_iff`), and what it means for one
level to be in order (`InOrder`) speaks of that level's own entries alone.

The type that a schema implies is a table made of two, the types of the
attributes and those of the blocks, and a key of both would keep the later
alone. At a level that is in order there is no such key, so the table is
nothing but the two in another order (`implies_of_inOrder`): each entry has
its one field. A field is an attribute's type or is implied in turn by a
level further down, so an `invalid` node in it would stand in the type of
some attribute (`containsInvalid_impliedType`).
-/
import ProviderLink.Proofs.Descriptor.Explicit
import ProviderLink.Proofs.Schema.Validity
import ProviderLink.Proofs.Text.Blank

namespace ProviderLink.ObjectSchema

-- ============================================================== levels

/-- The first schema is a level of the second: that itself, or a level of what is nested in one of
its blocks. -/
inductive Inside : ObjectSchema → ObjectSchema → Prop
  | self (s : ObjectSchema) : Inside s s
  | block {s t : ObjectSchema} {e : String × BlockSchema} (hblock : e ∈ s.blocks)
    (hinside : Inside t e.2.nested) : Inside t s

theorem Inside.trans {s t u : ObjectSchema} (hu : Inside u t) (ht : Inside t s) : Inside u s := by
  induction ht with
  | self => exact hu
  | block hblock _ ih => exact .block hblock (ih hu)

/-- What holds of every level holds of the schema and of every level of what is nested in it. -/
theorem forall_inside_iff {P : ObjectSchema → Prop} {s : ObjectSchema} :
    (∀ t, Inside t s → P t) ↔ P s ∧ ∀ e ∈ s.blocks, ∀ t, Inside t e.2.nested → P t := by
  constructor
  · intro h
    exact ⟨h s (.self s), fun e he t ht => h t (.block he ht)⟩
  · rintro ⟨hself, hblocks⟩ t ht
    cases ht with
    | self => exact hself
    | block hblock hinside => exact hblocks _ hblock t hinside

/-- The entries of one level are in order: each is keyed by its own name, which is more than
blanks; no attribute's type has an `invalid` node; and no block has the key of an attribute. -/
structure InOrder (s : ObjectSchema) : Prop where
  attributes : ∀ e ∈ s.attributes, e.2.name = e.1 ∧ Text.trim e.2.name.toList ≠ []
    ∧ ¬Descriptor.Inside .invalid e.2.type
  blocks : ∀ e ∈ s.blocks, e.2.name = e.1 ∧ Text.trim e.2.name.toList ≠ []
    ∧ e.1 ∉ Dict.keys s.attributes

theorem named_iff {key name : String} :
    Named key name ↔ name = key ∧ Text.trim name.toList ≠ [] := by
  rw [Named, ne_eq, Text.trim_eq_nil, Bool.not_eq_true, eq_comm (a := key), and_comm]

/-- A schema is valid if its own entries are in order and what is nested in its blocks is valid. -/
theorem valid_level {s : ObjectSchema} :
    s.Valid ↔ s.InOrder ∧ ∀ e ∈ s.blocks, e.2.nested.Valid := by
  have hattribute : ∀ e : String × AttrSchema,
      (Named e.1 e.2.name ∧ e.2.type.containsInvalid = false) ↔ e.2.name = e.1
        ∧ Text.trim e.2.name.toList ≠ [] ∧ ¬Descriptor.Inside .invalid e.2.type := fun e => by
    rw [named_iff, Descriptor.containsInvalid_eq_false, and_assoc]
  have hblock : ∀ e : String × BlockSchema,
      (Named e.1 e.2.name ∧ Dict.has e.1 s.attributes = false) ↔ e.2.name = e.1
        ∧ Text.trim e.2.name.toList ≠ [] ∧ e.1 ∉ Dict.keys s.attributes := fun e => by
    rw [named_iff, ← Bool.not_eq_true, Dict.has_iff_mem_keys, and_assoc]
  constructor
  · intro h
    cases h with
    | entries hattributes hblocks hnested =>
        exact ⟨⟨fun e he => (hattribute e).1 (hattributes e he),
          fun e he => (hblock e).1 (hblocks e he)⟩, hnested⟩
  · rintro ⟨h, hnested⟩
    exact .entries (fun e he => (hattribute e).2 (h.attributes e he))
      (fun e he => (hblock e).2 (h.blocks e he)) hnested

/-- A schema is valid if each of its levels is in order. -/
theorem valid_iff (s : ObjectSchema) : s.Valid ↔ ∀ t, Inside t s → t.InOrder := by
  induction s using nested_induction with
  | step s ih =>
      rw [valid_level, forall_inside_iff]
      exact and_congr_right fun _ => forall₂_congr ih

theorem Valid.inside {s t : ObjectSchema} (h : s.Valid) (ht : Inside t s) : t.Valid := by
  rw [valid_iff] at h ⊢
  exact fun u hu => h u (hu.trans ht)

-- ======================================================== implied types

/-- The fields are those that a schema implies: one for each attribute and one for each block, of
the attribute's own type or of the type that the block's schema implies. -/
structure Implies (s : ObjectSchema) (fields : List (String × Descriptor)) : Prop where
  sorted : Dict.Sorted fields
  keys : (Dict.keys fields).Perm (Dict.keys s.attributes ++ Dict.keys s.blocks)
  attributes : ∀ key a, Dict.get? key s.attributes = some a → Dict.get? key fields = some a.type
  blocks : ∀ key b, Dict.get? key s.blocks = some b →
    Dict.get? key fields = some b.nested.impliedType

/-- At a level that is in order no field is lost. -/
theorem implies_of_inOrder {s : ObjectSchema} (hs : s.Ordered) (h : s.InOrder) :
    ∃ fields, s.impliedType = .object fields ∧ Implies s fields := by
  obtain ⟨attributes, blocks⟩ := s
  have hattributes : Dict.keys (attributeTypes attributes) = Dict.keys attributes := by
    rw [attributeTypes_eq, Dict.keys_mapValues]
  have hblocks : Dict.keys (blockTypes blocks) = Dict.keys blocks := by
    rw [blockTypes_eq, Dict.keys_mapValues]
  have hkeys : Dict.keys (attributeTypes attributes ++ blockTypes blocks)
      = Dict.keys attributes ++ Dict.keys blocks := by
    rw [← hattributes, ← hblocks]
    exact List.map_append
  have hnodup : (Dict.keys (attributeTypes attributes ++ blockTypes blocks)).Nodup := by
    rw [hkeys]
    refine List.nodup_append.2 ⟨Dict.nodup_keys hs.sorted_attributes,
      Dict.nodup_keys hs.sorted_blocks, fun key hkey other hother heq => ?_⟩
    -- no block has the key of an attribute
    obtain ⟨e, he, hother⟩ := List.mem_map.1 hother
    exact (h.blocks e he).2.2 (hother ▸ heq ▸ hkey)
  have hfound : ∀ key type, (key, type) ∈ attributeTypes attributes ++ blockTypes blocks →
      Dict.get? key (Dict.ofList (attributeTypes attributes ++ blockTypes blocks))
        = some type := by
    intro key type hmem
    rw [Dict.get?_ofList hnodup]
    exact Dict.get?_of_mem hnodup hmem
  refine ⟨_, rfl, Dict.sorted_ofList _, ?_, fun key a ha => hfound key _ ?_,
    fun key b hb => hfound key _ ?_⟩
  · rw [← hkeys]
    exact (Dict.perm_ofList hnodup).map _
  · exact List.mem_append_left _ (List.mem_map_of_mem (Dict.mem_of_get? ha))
  · rw [blockTypes_eq]
    exact List.mem_append_right _ (List.mem_map_of_mem (Dict.mem_of_get? hb))

/-- No valid schema implies an `invalid` node. -/
theorem containsInvalid_impliedType (s : ObjectSchema) :
    s.Valid → s.impliedType.containsInvalid = false := by
  induction s using nested_induction with
  | step s ih =>
      intro h
      obtain ⟨hlevel, hnested⟩ := valid_level.1 h
      obtain ⟨attributes, blocks⟩ := s
      rw [impliedType, Descriptor.containsInvalid, Descriptor.anyInvalid_eq_false]
      intro e he
      rcases List.mem_append.1 (Dict.mem_of_mem_ofList he) with he | he
      · obtain ⟨a, ha, rfl⟩ := List.mem_map.1 he
        exact (Descriptor.containsInvalid_eq_false _).2 (hlevel.attributes a ha).2.2
      · rw [blockTypes_eq] at he
        obtain ⟨b, hb, rfl⟩ := List.mem_map.1 he
        exact ih b hb (hnested b hb)

theorem Ordered.inside {s t : ObjectSchema} (h : s.Ordered) (ht : Inside t s) : t.Ordered := by
  induction ht with
  | self => exact h
  | block hblock _ ih => exact ih (h.nested _ hblock)

/-- A schema is valid exactly if each of its levels is in order. Then the type that each level
implies is an object with one field for every attribute and block there, of the attribute's own
type or implied by the block's schema, and has no `invalid` node anywhere. -/
theorem validate_levels (s : ObjectSchema) :
    (s.validate = .ok () ↔ ∀ t, Inside t s → t.InOrder)
      ∧ (s.Ordered → s.validate = .ok () → ∀ t, Inside t s →
        (∃ fields, t.impliedType = .object fields ∧ Implies t fields)
          ∧ ¬Descriptor.Inside .invalid t.impliedType) := by
  rw [validate_eq_ok]
  refine ⟨s.valid_iff, fun hs h t ht => ⟨?_, ?_⟩⟩
  · exact implies_of_inOrder (hs.inside ht) (s.valid_iff.1 h t ht)
  · exact (Descriptor.containsInvalid_eq_false _).1 (containsInvalid_impliedType t (h.inside ht))

/-- A schema whose two levels use one name, each for an entry of its own. -/
def demoLevels : ObjectSchema :=
  ⟨[("retries", ⟨"retries", .primitive .number, false⟩)],
    [("auth", ⟨"auth", ⟨[("auth", ⟨"auth", .list none, true⟩)], []⟩, true⟩)]⟩

/-- A block's name may be an attribute's one level further down. -/
theorem validate_levels_demo :
    demoLevels.Ordered ∧ demoLevels.validate = .ok ()
      ∧ Inside ⟨[("auth", ⟨"auth", .list none, true⟩)], []⟩ demoLevels
      ∧ ∃ fields, demoLevels.impliedType = .object fields ∧ Implies demoLevels fields := by
  have hordered : demoLevels.Ordered := by decide
  have hvalid : demoLevels.validate = .ok () := by decide
  have hinside : Inside ⟨[("auth", ⟨"auth", .list none, true⟩)], []⟩ demoLevels :=
    .block (List.mem_singleton_self _) (.self _)
  exact ⟨hordered, hvalid, hinside,
    ((validate_levels demoLevels).2 hordered hvalid demoLevels (.self _)).1⟩

end ProviderLink.ObjectSchema
