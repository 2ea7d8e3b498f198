/-
What it is for a value to satisfy a schema, in one recursion. Reading an
input takes two: the value is conformed to the type that the schema
implies, and what comes of that is asked for what must be there.
`Satisfies` says the same of the value as it was written, and `fill`
says what it becomes.

The implied type is a table in which blocks shadow attributes
(`get?_fieldTypes`), so to be of that type is, name by name, to be of a
block's implied type or of an attribute's. Nulls are all that filling
adds, and a member that is `null` is not present, so presence may be
asked of the filled value or of the written one alike
(`present?_fill`). Both facts speak of one level; the induction is on the
schema, one level a step, and its hypothesis is for the schemas of the
blocks (`nested_induction`).
-/
import ProviderLink.Proofs.Descriptor.Record
import ProviderLink.Proofs.Schema.Record
import ProviderLink.Proofs.Value.Inhabits
import ProviderLink.Schema.Presence

namespace ProviderLink

open Json

-- ======================================================= types of fields

namespace Descriptor

theorem fieldValueTypes_eq (fields : List (String × Descriptor)) :
    fieldValueTypes fields = Dict.mapValues toValueType fields := by
  induction fields with
  | nil => rfl
  | cons e fields ih =>
      rw [fieldValueTypes, ih]
      rfl

mutual

/-- The type of an ordered descriptor is ordered. -/
theorem ordered_toValueType : (t : Descriptor) → t.Ordered → t.toValueType.Ordered
  | primitive kind, _ => by cases kind <;> trivial
  | object fields, h => by
      rw [Ordered] at h
      rw [toValueType, ValueType.Ordered]
      refine ⟨?_, orderedFields_fieldValueTypes fields h.2⟩
      rw [fieldValueTypes_eq]
      exact (Dict.sorted_mapValues _).2 h.1
  | map none, _ => trivial
  | map (some element), h => ordered_toValueType element h
  | list none, _ => trivial
  | list (some element), h => ordered_toValueType element h
  | dynamic, _ => trivial
  | invalid, _ => trivial

theorem orderedFields_fieldValueTypes : (fields : List (String × Descriptor)) →
    OrderedFields fields → ValueType.OrderedFields (fieldValueTypes fields)
  | [], _ => trivial
  | (_, type) :: rest, h =>
    ⟨ordered_toValueType type h.1, orderedFields_fieldValueTypes rest h.2⟩

end

end Descriptor

namespace ObjectSchema

-- ============================================================ induction

mutual

/-- What holds of a schema if it holds of the schemas in its blocks holds
of every schema. -/
@[elab_as_elim]
theorem nested_induction {motive : ObjectSchema → Prop}
    (step : ∀ s, (∀ e ∈ s.blocks, motive e.2.nested) → motive s) :
    (s : ObjectSchema) → motive s
  | ⟨_, blocks⟩ => step _ (nested_induction_blocks step blocks)

theorem nested_induction_blocks {motive : ObjectSchema → Prop}
    (step : ∀ s, (∀ e ∈ s.blocks, motive e.2.nested) → motive s) :
    (blocks : List (String × BlockSchema)) → ∀ e ∈ blocks, motive e.2.nested
  | [] => nofun
  | (_, ⟨_, nested, _⟩) :: rest =>
    List.forall_mem_cons.2 ⟨nested_induction step nested, nested_induction_blocks step rest⟩

end

-- ========================================================= implied type

theorem attributeTypes_eq (attributes : List (String × AttrSchema)) :
    attributeTypes attributes = Dict.mapValues AttrSchema.type attributes := rfl

theorem blockTypes_eq (blocks : List (String × BlockSchema)) :
    blockTypes blocks = Dict.mapValues (fun b => b.nested.impliedType) blocks := by
  induction blocks with
  | nil => rfl
  | cons e blocks ih =>
      obtain ⟨key, name, nested, required⟩ := e
      rw [blockTypes, ih]
      rfl

/-- The type of values that a schema implies. -/
def valueType (s : ObjectSchema) : ValueType := s.impliedType.toValueType

/-- The fields of that type. -/
def fieldTypes (s : ObjectSchema) : List (String × ValueType) :=
  Dict.mapValues Descriptor.toValueType
    (Dict.ofList (attributeTypes s.attributes ++ blockTypes s.blocks))

theorem valueType_eq (s : ObjectSchema) : s.valueType = .object s.fieldTypes := by
  obtain ⟨attributes, blocks⟩ := s
  rw [valueType, impliedType, Descriptor.toValueType, Descriptor.fieldValueTypes_eq]
  rfl

/-- A field's type is that of the block of its name, or else that of the
attribute. -/
theorem get?_fieldTypes {s : ObjectSchema} (h : s.Ordered) (k : String) :
    Dict.get? k s.fieldTypes
      = ((Dict.get? k s.blocks).map fun b => b.nested.valueType).or
          ((Dict.get? k s.attributes).map fun a => a.type.toValueType) := by
  obtain ⟨attributes, blocks⟩ := s
  rw [Ordered] at h
  have hattributes : (Dict.keys (attributeTypes attributes)).Nodup := by
    rw [attributeTypes_eq, Dict.keys_mapValues]
    exact Dict.nodup_keys h.1.1
  have hblocks : (Dict.keys (blockTypes blocks)).Nodup := by
    rw [blockTypes_eq, Dict.keys_mapValues]
    exact Dict.nodup_keys h.2.1
  rw [fieldTypes, Dict.get?_mapValues, Dict.get?_ofList_append hattributes hblocks,
    attributeTypes_eq, blockTypes_eq, Dict.get?_mapValues, Dict.get?_mapValues,
    Option.map_or, Option.map_map, Option.map_map]
  rfl

/-- A name has a field if it has an attribute or a block. -/
theorem has_fieldTypes {s : ObjectSchema} (h : s.Ordered) (k : String) :
    Dict.has k s.fieldTypes ↔ Dict.has k s.attributes ∨ Dict.has k s.blocks := by
  unfold Dict.has
  rw [get?_fieldTypes h, Option.isSome_or, Bool.or_eq_true, Option.isSome_map,
    Option.isSome_map, or_comm]

/-- An ordered schema's blocks have ordered schemas. -/
theorem Ordered.nested {s : ObjectSchema} (h : s.Ordered) :
    ∀ e ∈ s.blocks, e.2.nested.Ordered := by
  obtain ⟨attributes, blocks⟩ := s
  rw [Ordered] at h
  exact orderedBlocks_iff.1 h.2.2

theorem Ordered.sorted_blocks {s : ObjectSchema} (h : s.Ordered) :
    Dict.Sorted s.blocks := by
  obtain ⟨attributes, blocks⟩ := s
  rw [Ordered] at h
  exact h.2.1

theorem Ordered.sorted_attributes {s : ObjectSchema} (h : s.Ordered) :
    Dict.Sorted s.attributes := by
  obtain ⟨attributes, blocks⟩ := s
  rw [Ordered] at h
  exact h.1.1

/-- The implied type of an ordered schema is ordered. -/
theorem ordered_impliedType (s : ObjectSchema) : s.Ordered → s.impliedType.Ordered := by
  induction s using nested_induction with
  | step s ih =>
      intro h
      have hnested := h.nested
      obtain ⟨attributes, blocks⟩ := s
      rw [Ordered] at h
      rw [impliedType, Descriptor.Ordered]
      refine ⟨Dict.sorted_ofList _, Descriptor.orderedFields_iff.2 fun e he => ?_⟩
      rcases List.mem_append.1 (Dict.mem_of_mem_ofList he) with he | he
      · obtain ⟨a, ha, rfl⟩ := List.mem_map.1 he
        exact h.1.2 a ha
      · rw [blockTypes_eq] at he
        obtain ⟨b, hb, rfl⟩ := List.mem_map.1 he
        exact ih b hb (hnested b hb)

theorem ordered_valueType {s : ObjectSchema} (h : s.Ordered) : s.valueType.Ordered :=
  Descriptor.ordered_toValueType _ (ordered_impliedType s h)

-- =========================================================== the rules

/-- The value is an object as the schema describes it. -/
inductive Satisfies : ObjectSchema → Json → Prop
  | object {s : ObjectSchema} {members : List (String × Json)}
      (named : ∀ k v, Dict.get? k members = some v →
        Dict.has k s.attributes ∨ Dict.has k s.blocks)
      (blockFits : ∀ k v b, Dict.get? k members = some v → Dict.get? k s.blocks = some b →
        v ≠ .null → Satisfies b.nested v)
      (attributeFits : ∀ k v a, Dict.get? k members = some v → Dict.get? k s.blocks = none →
        Dict.get? k s.attributes = some a → a.type.toValueType.Inhabits v)
      (requiredAttribute : ∀ k a, Dict.get? k s.attributes = some a → a.required →
        ∃ v, Dict.get? k members = some v ∧ v ≠ .null)
      (requiredBlock : ∀ k b, Dict.get? k s.blocks = some b → b.required →
        ∃ v, Dict.get? k members = some v ∧ v ≠ .null) :
      Satisfies s (.object members)

mutual

/-- The value with `null` for what is left out of its blocks and of its
object-typed places. -/
def fill : ObjectSchema → Json → Json
  | ⟨attributes, blocks⟩, .object members =>
    .object (withNulls (Dict.keys attributes ++ Dict.keys blocks)
      (members.map fun e => (e.1, fillMember attributes blocks e.1 e.2)))
  | _, v => v
termination_by structural s => s

/-- A member filled by the block of its name, or else by the attribute's type. -/
def fillMember (attributes : List (String × AttrSchema)) :
    List (String × BlockSchema) → String → Json → Json
  | [], k, v =>
    match Dict.get? k attributes with
    | some a => a.type.toValueType.fill v
    | none => v
  | (name, ⟨_, nested, _⟩) :: rest, k, v =>
    if k = name then fill nested v else fillMember attributes rest k v
termination_by structural blocks => blocks

end

/-- What a member is filled by. -/
theorem fillMember_eq (attributes : List (String × AttrSchema))
    (blocks : List (String × BlockSchema)) (k : String) (v : Json) :
    fillMember attributes blocks k v
      = match Dict.get? k blocks with
        | some b => b.nested.fill v
        | none =>
          match Dict.get? k attributes with
          | some a => a.type.toValueType.fill v
          | none => v := by
  induction blocks with
  | nil => rfl
  | cons e blocks ih =>
      obtain ⟨key, name, nested, required⟩ := e
      rw [fillMember, Dict.get?_cons]
      split
      case isTrue => rfl
      case isFalse => exact ih

theorem fill_object (s : ObjectSchema) (members : List (String × Json)) :
    s.fill (.object members) = .object
      (withNulls (Dict.keys s.attributes ++ Dict.keys s.blocks)
        (members.map fun e => (e.1, fillMember s.attributes s.blocks e.1 e.2))) := by
  obtain ⟨attributes, blocks⟩ := s
  rfl

@[simp] theorem fill_null (s : ObjectSchema) : s.fill .null = .null := by
  obtain ⟨attributes, blocks⟩ := s
  rfl

/-- Filling by the implied type is filling by the schema. -/
theorem fill_valueType (s : ObjectSchema) : s.Ordered → ∀ {v : Json}, v.Ordered →
    s.valueType.fill v = s.fill v := by
  induction s using nested_induction with
  | step s ih =>
      intro h v hv
      rw [valueType_eq]
      cases v with
      | object members =>
          rw [Json.Ordered] at hv
          rw [fill_object, ValueType.fill]
          refine congrArg _ (Dict.eq_of_get? (sorted_withNulls _ (List.pairwise_map.2 hv.1))
            (sorted_withNulls _ (List.pairwise_map.2 hv.1)) fun k => ?_)
          rw [get?_withNulls, get?_withNulls, Dict.get?_map (ValueType.fillField s.fieldTypes),
            Dict.get?_map (fillMember s.attributes s.blocks)]
          cases hk : Dict.get? k members with
          | some w =>
              have hw : w.Ordered := orderedMembers_iff.1 hv.2 _ (Dict.mem_of_get? hk)
              have hmember : ValueType.fillField s.fieldTypes k w
                  = fillMember s.attributes s.blocks k w := by
                rw [ValueType.fillField_eq, fillMember_eq, get?_fieldTypes h]
                cases hb : Dict.get? k s.blocks with
                | some b =>
                    -- the block shadows an attribute on both sides
                    have he := Dict.mem_of_get? hb
                    exact ih _ he (h.nested _ he) hw
                | none => cases Dict.get? k s.attributes <;> rfl
              rw [Option.map_some, Option.map_some, hmember]
              rfl
          | none =>
              have hkeys : k ∈ Dict.keys s.fieldTypes
                  ↔ k ∈ Dict.keys s.attributes ++ Dict.keys s.blocks := by
                rw [List.mem_append, ← Dict.has_iff_mem_keys, ← Dict.has_iff_mem_keys,
                  ← Dict.has_iff_mem_keys, has_fieldTypes h]
              simp only [hkeys, Option.map_none]
      | _ => obtain ⟨attributes, blocks⟩ := s; rfl

-- ============================================================ presence

theorem present?_eq_some {k : String} {members : List (String × Json)} {v : Json} :
    present? k members = some v ↔ Dict.get? k members = some v ∧ v ≠ .null := by
  unfold present?
  split
  case h_1 hnull =>
    rw [hnull]
    refine iff_of_false nofun fun ⟨heq, hv⟩ => hv ?_
    exact (Option.some.inj heq).symm
  case h_2 hnull =>
    exact ⟨fun hv => ⟨hv, fun heq => hnull (heq ▸ hv)⟩, And.left⟩

/-- A member is present in the filled value if it was before. -/
theorem present?_fill (fields : List (String × ValueType)) (names : List String)
    (members : List (String × Json)) (k : String) :
    present? k (withNulls names
        (members.map fun e => (e.1, ValueType.fillField fields e.1 e.2)))
      = (present? k members).map (ValueType.fillField fields k) := by
  have hget := get?_withNulls k names
    (members.map fun e => (e.1, ValueType.fillField fields e.1 e.2))
  rw [Dict.get?_map (ValueType.fillField fields)] at hget
  refine Option.ext fun w => ?_
  rw [present?_eq_some, hget, Option.map_eq_some_iff]
  simp only [present?_eq_some]
  cases hk : Dict.get? k members with
  | none =>
      refine iff_of_false ?_ fun ⟨_, ⟨h, _⟩, _⟩ => nomatch h
      rintro ⟨hw, hne⟩
      rw [Option.map_none, Option.none_or] at hw
      split at hw
      · exact hne (Option.some.inj hw).symm
      · cases hw
  | some v =>
      rw [Option.map_some, Option.some_or]
      constructor
      · rintro ⟨hw, hne⟩
        cases hw
        exact ⟨v, ⟨rfl, fun hv => hne (ValueType.fillField_eq_null.2 hv)⟩, rfl⟩
      · rintro ⟨_, ⟨heq, hne⟩, rfl⟩
        cases heq
        exact ⟨rfl, fun hnull => hne (ValueType.fillField_eq_null.1 hnull)⟩

/-- All that is required is there, of the attributes. -/
theorem checkAttributes_eq_ok {path : Path} {members : List (String × Json)}
    {attributes : List (String × AttrSchema)} :
    checkAttributes path members attributes = .ok () ↔
      ∀ e ∈ attributes, e.2.required → ∃ v, present? e.1 members = some v := by
  induction attributes with
  | nil => simp [checkAttributes]
  | cons e attributes ih =>
      obtain ⟨name, a⟩ := e
      rw [checkAttributes, List.forall_mem_cons, ← ih]
      cases present? name members with
      | some v => simp
      | none => cases a.required <;> simp

theorem checkBlocks_eq_ok {path : Path} {members : List (String × Json)}
    {blocks : List (String × BlockSchema)} :
    checkBlocks path blocks members = .ok () ↔
      ∀ e ∈ blocks, (e.2.required → ∃ v, present? e.1 members = some v) ∧
        ∀ v, present? e.1 members = some v →
          checkRequiredAt (path.member e.1) e.2.nested v = .ok () := by
  induction blocks with
  | nil => simp [checkBlocks]
  | cons e blocks ih =>
      obtain ⟨key, name, nested, required⟩ := e
      simp only [checkBlocks, List.forall_mem_cons, ← ih]
      cases present? key members with
      | some v => simp [check_bind_eq_ok]
      | none => cases required <;> simp [check_bind_eq_ok, throw, throwThe, MonadExceptOf.throw]

theorem checkRequiredAt_object (path : Path) (s : ObjectSchema)
    (members : List (String × Json)) :
    checkRequiredAt path s (.object members) = (do
      checkAttributes path members s.attributes
      checkBlocks path s.blocks members) := by
  obtain ⟨attributes, blocks⟩ := s
  rfl

/-- A block's member is filled by the type that the block implies. -/
theorem fillField_block {s : ObjectSchema} (h : s.Ordered) {e : String × BlockSchema}
    (he : e ∈ s.blocks) (v : Json) :
    ValueType.fillField s.fieldTypes e.1 v = e.2.nested.valueType.fill v := by
  have hblock : Dict.get? e.1 s.blocks = some e.2 :=
    Dict.get?_of_sorted h.sorted_blocks he
  rw [ValueType.fillField_eq, get?_fieldTypes h, hblock]
  rfl

/-- What the check asks of a filled object, asked of the object as it was. -/
theorem checkRequiredAt_fill {s : ObjectSchema} (h : s.Ordered) (path : Path)
    (members : List (String × Json)) :
    checkRequiredAt path s (s.valueType.fill (.object members)) = .ok () ↔
      (∀ e ∈ s.attributes, e.2.required → ∃ v, present? e.1 members = some v) ∧
      ∀ e ∈ s.blocks, (e.2.required → ∃ v, present? e.1 members = some v) ∧
        ∀ v, present? e.1 members = some v →
          checkRequiredAt (path.member e.1) e.2.nested (e.2.nested.valueType.fill v)
            = .ok () := by
  rw [valueType_eq, ValueType.fill, checkRequiredAt_object, check_bind_eq_ok,
    checkAttributes_eq_ok, checkBlocks_eq_ok]
  have hpresent : ∀ k, (∃ w, (present? k members).map (ValueType.fillField s.fieldTypes k)
      = some w) ↔ ∃ v, present? k members = some v := by
    intro k
    cases present? k members <;> simp
  simp only [present?_fill, hpresent]
  refine and_congr_right fun _ => forall_congr' fun e => forall_congr' fun he => ?_
  refine and_congr_right fun _ => ?_
  cases present? e.1 members with
  | none => simp
  | some v => simp [fillField_block h he]

-- ========================================================= one meaning

/-- To be of the implied type is, name by name, to be of the type that the
block implies or else of the attribute's. -/
theorem inhabits_valueType_iff {s : ObjectSchema} (h : s.Ordered)
    {members : List (String × Json)} :
    s.valueType.Inhabits (.object members) ↔
      (∀ k v, Dict.get? k members = some v → Dict.has k s.attributes ∨ Dict.has k s.blocks) ∧
      (∀ k v b, Dict.get? k members = some v → Dict.get? k s.blocks = some b →
        b.nested.valueType.Inhabits v) ∧
      ∀ k v a, Dict.get? k members = some v → Dict.get? k s.blocks = none →
        Dict.get? k s.attributes = some a → a.type.toValueType.Inhabits v := by
  rw [valueType_eq]
  constructor
  · intro hfits
    cases hfits with
    | object named fits =>
        refine ⟨fun k v hk => (has_fieldTypes h k).1 (named k v hk), fun k v b hk hb => ?_,
          fun k v a hk hb ha => ?_⟩
        · exact fits k v _ hk (by rw [get?_fieldTypes h, hb]; rfl)
        · exact fits k v _ hk (by rw [get?_fieldTypes h, hb, ha]; rfl)
  · rintro ⟨named, hblocks, hattributes⟩
    refine .object (fun k v hk => (has_fieldTypes h k).2 (named k v hk))
      fun k v type hk htype => ?_
    rw [get?_fieldTypes h] at htype
    cases hb : Dict.get? k s.blocks with
    | some b =>
        rw [hb] at htype
        cases htype
        exact hblocks k v b hk hb
    | none =>
        rw [hb] at htype
        obtain ⟨a, ha, rfl⟩ := Option.map_eq_some_iff.1 htype
        exact hattributes k v a hk hb ha

/-- A satisfying value is of the implied type, and as one of that type it
has all that is required. -/
theorem satisfies_iff (s : ObjectSchema) : s.Ordered →
    ∀ (path : Path) {v : Json}, v.Ordered →
      (s.Satisfies v ↔ v ≠ .null ∧ s.valueType.Inhabits v ∧
        checkRequiredAt path s (s.valueType.fill v) = .ok ()) := by
  induction s using nested_induction with
  | step s ih =>
      intro h path v hv
      cases v with
      | null => exact iff_of_false nofun fun hfits => hfits.1 rfl
      | object members =>
          rw [Json.Ordered] at hv
          -- the hypothesis of the induction, for a block that is present
          have hblock : ∀ {k v b}, Dict.get? k members = some v → v ≠ .null →
              Dict.get? k s.blocks = some b →
              (b.nested.Satisfies v ↔ b.nested.valueType.Inhabits v ∧
                checkRequiredAt (path.member k) b.nested (b.nested.valueType.fill v)
                  = .ok ()) := by
            intro k v b hk hne hb
            have he := Dict.mem_of_get? hb
            have hv' := orderedMembers_iff.1 hv.2 _ (Dict.mem_of_get? hk)
            rw [ih (k, b) he (h.nested _ he) (path.member k) hv']
            exact and_iff_right hne
          rw [checkRequiredAt_fill h, inhabits_valueType_iff h]
          simp only [present?_eq_some]
          constructor
          · intro hs
            cases hs with
            | object named blockFits attributeFits requiredAttribute requiredBlock =>
                refine ⟨nofun, ⟨named, fun k v b hk hb => ?_, attributeFits⟩,
                  fun e he => requiredAttribute e.1 e.2
                    (Dict.get?_of_sorted h.sorted_attributes he),
                  fun e he => ?_⟩
                · -- a block that is `null` is of any type, and nothing inside is checked
                  by_cases hne : v = .null
                  · rw [hne]
                    exact .null _
                  · exact ((hblock hk hne hb).1 (blockFits k v b hk hb hne)).1
                · have hb := Dict.get?_of_sorted h.sorted_blocks he
                  refine ⟨requiredBlock e.1 e.2 hb, fun v ⟨hk, hne⟩ => ?_⟩
                  exact ((hblock hk hne hb).1 (blockFits e.1 v e.2 hk hb hne)).2
          · rintro ⟨-, ⟨named, hfits, hattributes⟩, hrequired, hblocks⟩
            refine .object named (fun k v b hk hb hne => ?_) hattributes
              (fun k a ha => hrequired (k, a) (Dict.mem_of_get? ha))
              fun k b hb => (hblocks (k, b) (Dict.mem_of_get? hb)).1
            exact (hblock hk hne hb).2
              ⟨hfits k v b hk hb, (hblocks (k, b) (Dict.mem_of_get? hb)).2 v ⟨hk, hne⟩⟩
      | _ =>
          rw [valueType_eq]
          exact iff_of_false nofun fun hfits => nomatch hfits.2.1

-- ============================================================= missing

theorem checkAttributes_eq_error {path : Path} {members : List (String × Json)}
    {attributes : List (String × AttrSchema)} {absence : Absence}
    (h : checkAttributes path members attributes = .error absence) :
    ∃ name, absence.missing = .attribute name := by
  induction attributes with
  | nil => cases h
  | cons e attributes ih =>
      rw [checkAttributes] at h
      split at h
      case isTrue =>
        cases h
        exact ⟨_, rfl⟩
      case isFalse => exact ih h

/-- A failure in the blocks is a block that is missing or a failure inside
one that is there. -/
theorem checkBlocks_eq_error {path : Path} {members : List (String × Json)}
    {blocks : List (String × BlockSchema)} {absence : Absence}
    (h : checkBlocks path blocks members = .error absence) :
    (∃ name, absence.missing = .block name) ∨
      ∃ e ∈ blocks, ∃ v, present? e.1 members = some v ∧
        checkRequiredAt (path.member e.1) e.2.nested v = .error absence := by
  induction blocks with
  | nil => cases h
  | cons e blocks ih =>
      obtain ⟨key, name, nested, required⟩ := e
      simp only [List.mem_cons, exists_eq_or_imp]
      simp only [checkBlocks] at h
      cases hpresent : present? key members with
      | some v =>
          rw [hpresent] at h
          rcases bind_eq_error.1 h with h | ⟨_, -, h⟩
          · exact Or.inr (Or.inl ⟨v, rfl, h⟩)
          · exact (ih h).imp_right Or.inr
      | none =>
          rw [hpresent] at h
          cases required with
          | true =>
              cases h
              exact Or.inl ⟨_, rfl⟩
          | false => exact (ih h).imp_right Or.inr

/-- A value of the implied type is an object wherever the check comes to. -/
theorem missing_ne_object (s : ObjectSchema) : s.Ordered →
    ∀ {path : Path} {v : Json} {absence : Absence}, v ≠ .null → s.valueType.Inhabits v →
      checkRequiredAt path s (s.valueType.fill v) = .error absence →
      absence.missing ≠ .object := by
  induction s using nested_induction with
  | step s ih =>
      intro h path v absence hne hfits herror
      cases v with
      | null => exact absurd rfl hne
      | object members =>
          have hblocks := ((inhabits_valueType_iff h).1 hfits).2.1
          rw [valueType_eq, ValueType.fill, checkRequiredAt_object] at herror
          rcases bind_eq_error.1 herror with herror | ⟨_, -, herror⟩
          · obtain ⟨name, hname⟩ := checkAttributes_eq_error herror
            rw [hname]
            nofun
          · rcases checkBlocks_eq_error herror with ⟨name, hname⟩ | ⟨e, he, w, hw, herror⟩
            · rw [hname]
              nofun
            · -- the failing block was there before filling, and is of its own implied type
              rw [present?_fill, Option.map_eq_some_iff] at hw
              obtain ⟨v, hv, rfl⟩ := hw
              obtain ⟨hget, hne⟩ := present?_eq_some.1 hv
              rw [fillField_block h he] at herror
              have hblock := Dict.get?_of_sorted h.sorted_blocks he
              exact ih e he (h.nested e he) hne (hblocks e.1 v e.2 hget hblock) herror
      | _ =>
          rw [valueType_eq] at hfits
          nomatch hfits

end ObjectSchema

end ProviderLink
