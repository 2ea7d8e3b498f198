/-
A schema reads back from its record: an attribute from its own, a block
if its nested schema does, and a schema if its attributes and blocks do.
The plan is that of descriptors: one node for any reader of what is
nested (`readNode_toJson`), then as many levels as the record has
(`readWithin_toJson`).
-/
import ProviderLink.Proofs.Descriptor.Record
import ProviderLink.Schema.Record

namespace ProviderLink

open Json

-- ========================================================== attributes

/-- An attribute reads back from its record. -/
theorem AttrSchema.read_canonical {a : AttrSchema} (h : a.type.Ordered) :
    AttrSchema.read a.toJson.canonical = .ok a := by
  have htype : Descriptor.read a.type.toJson.canonical = .ok a.type :=
    Descriptor.read_canonical h
  apply eq_ok_of_toOption
  simp [AttrSchema.read, AttrSchema.toJson, Fields.field, Fields.given, Dict.get?_cons,
    htype]

theorem AttrSchema.legible_toJson (a : AttrSchema) : a.toJson.Legible :=
  ⟨trivial, a.type.legible_toJson, trivial, trivial⟩

-- ============================================================== blocks

/-- A block reads back from its record, if its nested schema does. -/
theorem BlockSchema.readNode_toJson (nested : Reader ObjectSchema) {b : BlockSchema}
    (h : nested b.nested.toJson.canonical = .ok b.nested) :
    BlockSchema.readNode nested b.toJson.canonical = .ok b := by
  obtain ⟨name, schema, required⟩ := b
  apply eq_ok_of_toOption
  simp [BlockSchema.readNode, BlockSchema.toJson, Fields.field, Fields.given,
    Dict.get?_cons, h]

namespace ObjectSchema

/-- The records of the blocks, as a table. -/
theorem blocksToJson_eq (blocks : List (String × BlockSchema)) :
    blocksToJson blocks = Dict.mapValues BlockSchema.toJson blocks := by
  induction blocks with
  | nil => rfl
  | cons e blocks ih =>
      obtain ⟨key, name, nested, required⟩ := e
      rw [blocksToJson, ih]
      rfl

/-- The record of a schema. -/
theorem toJson_eq (s : ObjectSchema) :
    s.toJson = .object [("attributes", .object (Dict.mapValues AttrSchema.toJson s.attributes)),
      ("blocks", .object (Dict.mapValues BlockSchema.toJson s.blocks))] := by
  obtain ⟨attributes, blocks⟩ := s
  rw [toJson, blocksToJson_eq]

/-- Ordered blocks, one by one. -/
theorem orderedBlocks_iff {blocks : List (String × BlockSchema)} :
    OrderedBlocks blocks ↔ ∀ e ∈ blocks, e.2.nested.Ordered := by
  induction blocks with
  | nil => simp [OrderedBlocks]
  | cons e blocks ih =>
      obtain ⟨key, name, nested, required⟩ := e
      rw [OrderedBlocks, ih, List.forall_mem_cons]

-- ============================================================= schemas

/-- A schema reads back from its record, if the schemas nested in its blocks do. -/
theorem readNode_toJson (nested : Reader ObjectSchema) {s : ObjectSchema} (h : s.Ordered)
    (hnested : ∀ e ∈ s.blocks, nested e.2.nested.toJson.canonical = .ok e.2.nested) :
    readNode nested s.toJson.canonical = .ok s := by
  obtain ⟨attributes, blocks⟩ := s
  rw [Ordered] at h
  obtain ⟨⟨hattributes, htypes⟩, hblocks, -⟩ := h
  have hread : readDict AttrSchema.read
      (Json.object (Dict.mapValues AttrSchema.toJson attributes)).canonical
      = .ok attributes :=
    readDict_canonical hattributes fun e he => AttrSchema.read_canonical (htypes e he)
  have hreadBlocks : readDict (BlockSchema.readNode nested)
      (Json.object (Dict.mapValues BlockSchema.toJson blocks)).canonical = .ok blocks :=
    readDict_canonical hblocks fun e he => BlockSchema.readNode_toJson nested (hnested e he)
  apply eq_ok_of_toOption
  rw [toJson_eq]
  simp [readNode, Fields.optional, Fields.given, Dict.get?_cons, hread, hreadBlocks]

/-- The record of a nested schema stands inside that of the schema. -/
theorem depth_nested_lt {s : ObjectSchema} (h : s.Ordered) {e : String × BlockSchema}
    (he : e ∈ s.blocks) :
    e.2.nested.toJson.canonical.depth < s.toJson.canonical.depth := by
  obtain ⟨attributes, blocks⟩ := s
  rw [Ordered] at h
  have hblock : e.2.nested.toJson.canonical.depth < e.2.toJson.canonical.depth := by
    refine depth_lt_of_member? (k := "nested") ?_
    rw [BlockSchema.toJson, member?_canonical (by simp)]
    rfl
  have hblocks : e.2.toJson.canonical.depth
      < (Json.object (Dict.mapValues BlockSchema.toJson blocks)).canonical.depth := by
    rw [canonical_mapValues BlockSchema.toJson h.2.1]
    exact depth_lt_of_mem (e := (e.1, e.2.toJson.canonical)) (List.mem_map_of_mem he)
  have hschema : (Json.object (Dict.mapValues BlockSchema.toJson blocks)).canonical.depth
      < (ObjectSchema.mk attributes blocks).toJson.canonical.depth := by
    refine depth_lt_of_member? (k := "blocks") ?_
    rw [toJson_eq, member?_canonical (by simp)]
    rfl
  exact Nat.lt_trans hblock (Nat.lt_trans hblocks hschema)

/-- As many levels as the record has are enough. -/
theorem readWithin_toJson (levels : Nat) : ∀ {s : ObjectSchema}, s.Ordered →
    s.toJson.canonical.depth < levels → readWithin levels s.toJson.canonical = .ok s := by
  induction levels with
  | zero => exact fun _ hd => absurd hd (Nat.not_lt_zero _)
  | succ levels ih =>
      intro s h hd
      refine readNode_toJson _ h fun e he => ih ?_ ?_
      · obtain ⟨attributes, blocks⟩ := s
        rw [Ordered] at h
        exact orderedBlocks_iff.1 h.2.2 e he
      · exact Nat.lt_of_lt_of_le (depth_nested_lt h he) (Nat.le_of_lt_succ hd)

/-- A schema reads back from its record. -/
theorem read_canonical {s : ObjectSchema} (h : s.Ordered) :
    read s.toJson.canonical = .ok s :=
  readWithin_toJson _ h (Nat.lt_succ_self _)

-- ============================================================= legible

mutual

/-- There are no numbers in a schema's record. -/
theorem legible_toJson : (s : ObjectSchema) → s.toJson.Legible
  | ⟨attributes, blocks⟩ => by
      refine ⟨legibleMembers_iff.2 fun e he => ?_, legible_blocksToJson blocks, trivial⟩
      obtain ⟨a, -, rfl⟩ := List.mem_map.1 he
      exact a.2.legible_toJson

/-- Nor in those of blocks. -/
theorem legible_blocksToJson : (blocks : List (String × BlockSchema)) →
    LegibleMembers (blocksToJson blocks)
  | [] => trivial
  | (_, ⟨_, nested, _⟩) :: rest =>
    ⟨⟨trivial, legible_toJson nested, trivial, trivial⟩, legible_blocksToJson rest⟩

end

end ObjectSchema

end ProviderLink
