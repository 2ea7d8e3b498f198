/-
Schemas described as data, held to types described as data. A schema is
read from a key/value map member by member, each as the attribute of its
name; a type is read from the same map member by member, each as the field
of its name. What stands between the two is `Attributes`: the members of
the map with what they say of an attribute, its flag and its type. The
schema is these attributes (`addMembers_eq_ok`), the type is theirs
(`Attributes.fields`), so one is read where the other is, flags apart
(`exists_attributes`).

Nothing a member describes can make the schema invalid but its name: it is
keyed by that, there are no blocks, and no type that is derived holds an
`invalid` node (`Attributes.valid_iff`).
-/
import ProviderLink.Proofs.Descriptor.Explicit
import ProviderLink.Proofs.Schema.Validity
import ProviderLink.Proofs.Text.Blank
import ProviderLink.Schema.SelfDescribed

namespace ProviderLink.ObjectSchema

open Descriptor

-- ========================================================== attributes

/-- Members and the attributes that they describe: each under its own name, with the flag that
it says and the type that it derives. -/
inductive Attributes : List (String × Json) → List (String × AttrSchema) → Prop
  | nil : Attributes [] []
  | cons (name : String) {v : Json} {type : Descriptor} {required : Bool}
    {members : List (String × Json)} {attributes : List (String × AttrSchema)}
    (hrequired : v.member? "required" = some (.bool required)) (htype : Constrains v type)
    (rest : Attributes members attributes) :
    Attributes ((name, v) :: members) ((name, ⟨name, type, required⟩) :: attributes)

/-- Every member's `required` is a boolean. -/
def Flagged (members : List (String × Json)) : Prop :=
  ∀ e ∈ members, ∃ required, e.2.member? "required" = some (.bool required)

theorem attributeOf_eq_ok {name : String} {v : Json} {a : AttrSchema} :
    attributeOf name v = .ok a ↔ ∃ required type,
      v.member? "required" = some (.bool required) ∧ Constrains v type
        ∧ a = ⟨name, type, required⟩ := by
  have hflag : ∀ required, (v.member? "required").bind Json.bool? = some required
      ↔ v.member? "required" = some (.bool required) := by
    intro required
    cases v.member? "required" with
    | none => exact iff_of_false nofun nofun
    | some w => cases w <;> simp [Json.bool?]
  unfold attributeOf
  split
  next hnone =>
    refine iff_of_false nofun ?_
    rintro ⟨required, _, hrequired, -⟩
    cases hnone.symm.trans ((hflag required).2 hrequired)
  next required hrequired =>
    rw [hflag] at hrequired
    simp only [bind_eq_ok, ofFormat_eq_ok]
    constructor
    · rintro ⟨type, htype, ha⟩
      cases ha
      exact ⟨required, type, hrequired, htype, rfl⟩
    · rintro ⟨other, type, hother, htype, rfl⟩
      cases hrequired.symm.trans hother
      exact ⟨type, htype, rfl⟩

/-- Reading adds the attributes that the members describe, in their order. -/
theorem addMembers_eq_ok {members : List (String × Json)} : ∀ {s s' : ObjectSchema},
    addMembers s members = .ok s' ↔ ∃ attributes, Attributes members attributes
      ∧ s' = ⟨Dict.insertAll s.attributes attributes, s.blocks⟩ := by
  induction members with
  | nil =>
      intro s s'
      obtain ⟨attributes, blocks⟩ := s
      rw [addMembers, Except.ok.injEq]
      constructor
      · rintro rfl
        exact ⟨[], .nil, rfl⟩
      · rintro ⟨_, hattributes, rfl⟩
        cases hattributes
        rfl
  | cons e members ih =>
      intro s s'
      obtain ⟨name, v⟩ := e
      simp only [addMembers, bind_eq_ok, attributeOf_eq_ok, ih]
      constructor
      · rintro ⟨_, ⟨required, type, hrequired, htype, rfl⟩, attributes, hattributes, rfl⟩
        exact ⟨_, .cons name hrequired htype hattributes, rfl⟩
      · rintro ⟨_, hattributes, rfl⟩
        cases hattributes with
        | cons name hrequired htype rest =>
            exact ⟨_, ⟨_, _, hrequired, htype, rfl⟩, _, rest, rfl⟩

namespace Attributes

variable {members : List (String × Json)} {attributes : List (String × AttrSchema)}

/-- The attributes have the names of the members, in their order. -/
theorem keys_eq (h : Attributes members attributes) :
    Dict.keys attributes = Dict.keys members := by
  induction h with
  | nil => rfl
  | cons name _ _ _ ih => exact congrArg (name :: ·) ih

theorem sorted (h : Attributes members attributes) (hmembers : Dict.Sorted members) :
    Dict.Sorted attributes := by
  rw [Dict.sorted_iff_keys, h.keys_eq, ← Dict.sorted_iff_keys]
  exact hmembers

/-- The types of the attributes are the fields that the members describe. -/
theorem fields (h : Attributes members attributes) :
    Fields Constrains members (attributeTypes attributes) := by
  induction h with
  | nil => exact .nil
  | cons name _ htype _ ih => exact .cons name htype ih

/-- What there is under the name of a member. -/
theorem get?_eq (h : Attributes members attributes) {name : String} {v : Json}
    (hv : Dict.get? name members = some v) : ∃ type required,
      Dict.get? name attributes = some ⟨name, type, required⟩
        ∧ v.member? "required" = some (.bool required) ∧ Constrains v type := by
  induction h with
  | nil => cases hv
  | @cons key w type required _ _ hrequired htype _ ih =>
      rw [Dict.get?_cons] at hv ⊢
      split at hv
      case isTrue heq =>
        cases hv
        subst heq
        exact ⟨type, required, if_pos rfl, hrequired, htype⟩
      case isFalse hne =>
        rw [if_neg hne]
        exact ih hv

/-- The schema of the attributes is valid if all names are more than blanks. -/
theorem valid_iff (h : Attributes members attributes) :
    Valid ⟨attributes, []⟩ ↔ ∀ name ∈ Dict.keys members, Text.allBlank name = false := by
  have hall : (∀ name ∈ Dict.keys members, Text.allBlank name = false) ↔
      ∀ e ∈ attributes, Named e.1 e.2.name ∧ e.2.type.containsInvalid = false := by
    induction h with
    | nil => simp
    | cons name _ htype _ ih =>
        rw [Dict.keys_cons, List.forall_mem_cons, List.forall_mem_cons, ih]
        simp [Named, htype.explicit.containsInvalid_eq_false]
  rw [hall]
  constructor
  · intro hvalid
    cases hvalid with
    | entries hattributes _ _ => exact hattributes
  · exact fun hattributes => .entries hattributes (fun _ h => absurd h List.not_mem_nil)
      fun _ h => absurd h List.not_mem_nil

end Attributes

/-- Members describe attributes if all are flagged and they describe fields. -/
theorem exists_attributes {members : List (String × Json)} :
    (∃ attributes, Attributes members attributes)
      ↔ Flagged members ∧ ∃ fields, Fields Constrains members fields := by
  constructor
  · rintro ⟨attributes, h⟩
    refine ⟨?_, _, h.fields⟩
    induction h with
    | nil => exact fun _ h => absurd h List.not_mem_nil
    | cons name hrequired _ _ ih => exact List.forall_mem_cons.2 ⟨⟨_, hrequired⟩, ih⟩
  · rintro ⟨hflagged, fields, hfields⟩
    induction hfields with
    | nil => exact ⟨[], .nil⟩
    | cons name first _ ih =>
        obtain ⟨⟨required, hrequired⟩, hrest⟩ := List.forall_mem_cons.1 hflagged
        obtain ⟨attributes, hattributes⟩ := ih hrest
        exact ⟨_, .cons name hrequired first hattributes⟩

-- ============================================================= reading

/-- A schema is read from a key/value map, as the attributes that its members describe. -/
theorem decode_eq_ok {v : Json} (hv : v.Ordered) {s : ObjectSchema} :
    decode v = .ok s ↔ ∃ members attributes, v = .object members ∧ IsKeyValue v
      ∧ Attributes members attributes ∧ s = ⟨attributes, []⟩ := by
  rw [decode, mapError_eq_ok]
  cases v with
  | object members =>
      rw [Json.Ordered] at hv
      have hread : addMembers empty members = .ok s ↔
          ∃ attributes, Attributes members attributes ∧ s = ⟨attributes, []⟩ := by
        rw [addMembers_eq_ok]
        refine exists_congr fun attributes => and_congr_right fun h => ?_
        have htable : Dict.insertAll empty.attributes attributes = attributes :=
          Dict.ofList_of_sorted (h.sorted hv.1)
        rw [htable]
        exact Iff.rfl
      have hobject : ofValue (.object members)
          = if isKeyValue (.object members) then addMembers empty members
            else .error ⟨.root, .schemaNotKeyValue⟩ := rfl
      rw [hobject]
      split
      next hshape =>
        rw [hread]
        constructor
        · rintro ⟨attributes, h, rfl⟩
          exact ⟨members, attributes, rfl, isKeyValue_iff.1 hshape, h, rfl⟩
        · rintro ⟨_, attributes, heq, -, h, rfl⟩
          cases heq
          exact ⟨attributes, h, rfl⟩
      next hshape =>
        refine iff_of_false nofun ?_
        rintro ⟨_, _, -, hmap, -⟩
        exact hshape (isKeyValue_iff.2 hmap)
  | _ =>
      refine iff_of_false nofun ?_
      rintro ⟨_, _, heq, -⟩
      cases heq

/-- A key/value map is read as the type that it derives. -/
theorem decodeType_eq_ok {v : Json} (h : IsKeyValue v) {t : Descriptor} :
    Descriptor.decode v = .ok t ↔ Constrains v t := by
  rw [Descriptor.decode, mapError_eq_ok, ofValue_eq_ok]
  refine ⟨fun hdescribes => ?_, .constraint (.inr h)⟩
  cases hdescribes with
  | constraint _ derived => exact derived
  | marker hshape => exact absurd (.inr h) hshape

/-- The type that attributes imply is the one of their types. -/
theorem impliedType_attributes {attributes : List (String × AttrSchema)}
    (h : Dict.Sorted attributes) :
    impliedType ⟨attributes, []⟩ = .object (attributeTypes attributes) := by
  have htypes : Dict.Sorted (attributeTypes attributes) := List.pairwise_map.2 h
  rw [impliedType, blockTypes, List.append_nil, Dict.ofList_of_sorted htypes]

/-- A value is read as a schema exactly if it is a key/value map, every `required` in it is a
boolean and it is read as a type. The schema then has no blocks and one attribute for each
member, under its name and with its flag; the type that it implies is the one that the value is
read as; and it is valid unless some name is nothing but blanks. -/
theorem decode_typed {v : Json} (hv : v.Ordered) :
    ((∃ s, decode v = .ok s) ↔
        ∃ members, v = .object members ∧ KeyValue members ∧ Flagged members
          ∧ ∃ t, Descriptor.decode v = .ok t)
      ∧ ∀ s, decode v = .ok s → ∃ members, v = .object members
        ∧ s.blocks = [] ∧ Dict.keys s.attributes = Dict.keys members
        ∧ (∀ name w, Dict.get? name members = some w → ∃ type required,
          Dict.get? name s.attributes = some ⟨name, type, required⟩
            ∧ w.member? "required" = some (.bool required))
        ∧ Descriptor.decode v = .ok s.impliedType
        ∧ (s.validate = .ok () ↔
          ∀ name ∈ Dict.keys members, Text.trim name.toList ≠ []) := by
  refine ⟨⟨?_, ?_⟩, ?_⟩
  · rintro ⟨s, hs⟩
    obtain ⟨members, attributes, rfl, hmap, h, -⟩ := (decode_eq_ok hv).1 hs
    have hshape := keyValue_of_object.1 hmap
    obtain ⟨hflagged, fields, hfields⟩ := exists_attributes.1 ⟨attributes, h⟩
    exact ⟨members, rfl, hshape, hflagged, _,
      (decodeType_eq_ok hmap).2 (.keyValue hshape hfields)⟩
  · rintro ⟨members, rfl, hshape, hflagged, t, ht⟩
    have hmap := keyValue_of_object.2 hshape
    obtain ⟨fields, hfields, -⟩ :=
      (constrains_keyValue hshape).1 ((decodeType_eq_ok hmap).1 ht)
    obtain ⟨attributes, h⟩ := exists_attributes.2 ⟨hflagged, fields, hfields⟩
    exact ⟨_, (decode_eq_ok hv).2 ⟨members, attributes, rfl, hmap, h, rfl⟩⟩
  · intro s hs
    obtain ⟨members, attributes, rfl, hmap, h, rfl⟩ := (decode_eq_ok hv).1 hs
    rw [Json.Ordered] at hv
    refine ⟨members, rfl, rfl, h.keys_eq, fun name w hw => ?_, ?_, ?_⟩
    · obtain ⟨type, required, hget, hrequired, -⟩ := h.get?_eq hw
      exact ⟨type, required, hget, hrequired⟩
    · rw [impliedType_attributes (h.sorted hv.1), decodeType_eq_ok hmap]
      exact .keyValue (keyValue_of_object.1 hmap) h.fields
    · rw [validate_eq_ok, h.valid_iff]
      simp only [ne_eq, Text.trim_eq_nil, Bool.not_eq_true]

/-- A map with fields of the names that leaves use, and one of a list. -/
def demoMap : Json :=
  .object [
    ("required", .object [("required", .bool true), ("type", .string "bool")]),
    ("type", .object [("children", .object [("by", .object [("required", .null),
        ("type", .string "string")])]), ("required", .bool false), ("type", .string "list")])]

/-- The markers inside a field need not be flags, and that of the field must be. -/
theorem decode_typed_map :
    demoMap.Ordered
      ∧ decode demoMap = .ok ⟨[("required", ⟨"required", .primitive .bool, true⟩),
          ("type", ⟨"type", .list (some (.object [("by", .primitive .string)])), false⟩)], []⟩
      ∧ Descriptor.decode demoMap
        = .ok (.object [("required", .primitive .bool),
          ("type", .list (some (.object [("by", .primitive .string)])))])
      ∧ validate ⟨[("required", ⟨"required", .primitive .bool, true⟩),
          ("type", ⟨"type", .list (some (.object [("by", .primitive .string)])), false⟩)], []⟩
        = .ok () := by
  have hordered : demoMap.Ordered := by decide
  have hdecode : decode demoMap = .ok ⟨[("required", ⟨"required", .primitive .bool, true⟩),
      ("type", ⟨"type", .list (some (.object [("by", .primitive .string)])), false⟩)], []⟩ := rfl
  obtain ⟨members, hmembers, -, -, -, htype, hvalid⟩ := (decode_typed hordered).2 _ hdecode
  cases hmembers
  exact ⟨hordered, hdecode, htype, hvalid.2 (by decide)⟩

end ProviderLink.ObjectSchema
