/-
A descriptor reads back from its record. One node reads back whatever
reader its children are given to, as long as that reads them back
(`readNode_toJson`); the levels of the record's value are enough for the
readers within one another (`readWithin_toJson`), since a child's record
stands inside that of its parent.
-/
import ProviderLink.Descriptor.Record
import ProviderLink.Proofs.Json.Lexing
import ProviderLink.Proofs.Json.Reading

namespace ProviderLink.Descriptor

open Json

-- ============================================================= writing

/-- The records of the fields, as a table. -/
theorem fieldsToJson_eq (fields : List (String × Descriptor)) :
    fieldsToJson fields = Dict.mapValues toJson fields := by
  induction fields with
  | nil => rfl
  | cons e fields ih =>
      obtain ⟨name, t⟩ := e
      rw [fieldsToJson, ih]
      rfl

theorem toJson_object (fields : List (String × Descriptor)) :
    (object fields).toJson
      = .object [("type_name", .string "object"),
          ("nested_values", .object (Dict.mapValues toJson fields))] := by
  rw [toJson, fieldsToJson_eq]

theorem orderedFields_iff {fields : List (String × Descriptor)} :
    OrderedFields fields ↔ ∀ e ∈ fields, e.2.Ordered := by
  induction fields with
  | nil => simp [OrderedFields]
  | cons e fields ih =>
      obtain ⟨name, t⟩ := e
      rw [OrderedFields, ih, List.forall_mem_cons]

/-- A descriptor's record is an object. -/
theorem canonical_toJson_ne_null (t : Descriptor) : t.toJson.canonical ≠ null := by
  have hobject : ∃ members, t.toJson = .object members := by
    cases t with
    | map element => cases element <;> exact ⟨_, rfl⟩
    | list element => cases element <;> exact ⟨_, rfl⟩
    | primitive | object | dynamic | invalid => exact ⟨_, rfl⟩
  obtain ⟨members, hm⟩ := hobject
  rw [hm, canonical]
  exact fun h => by cases h

-- ================================================================ nodes

/-- A node is what its record stands for. -/
theorem readNode_of_record {child : Reader Descriptor} {v : Json} {r : Record}
    {t : Descriptor} (hr : (recordFields child).read "WireType" false v = .ok r)
    (ht : r.toDescriptor = .ok t) : readNode child v = .ok t := by
  unfold readNode
  rw [hr]
  simp only [Except.bind, bind, ht]

/-- The descriptors right inside one. -/
def children : Descriptor → List Descriptor
  | object fields => fields.map Prod.snd
  | map (some element) | list (some element) => [element]
  | primitive _ | map none | list none | dynamic | invalid => []

theorem readNode_leaf (child : Reader Descriptor) {name : String} {t : Descriptor}
    (h : Record.toDescriptor ⟨name, none, none⟩ = .ok t) :
    readNode child (Json.object [("type_name", .string name)]).canonical = .ok t := by
  have hrecord : (recordFields child).read "WireType" false
      (Json.object [("type_name", .string name)]).canonical = .ok ⟨name, none, none⟩ := by
    apply eq_ok_of_toOption
    simp [recordFields, Fields.field, Fields.optional, Fields.given, Dict.get?_cons]
  exact readNode_of_record hrecord h

theorem readNode_element (child : Reader Descriptor) {name : String}
    {t element : Descriptor}
    (h : Record.toDescriptor ⟨name, none, some element⟩ = .ok t)
    (hchild : child element.toJson.canonical = .ok element) :
    readNode child (Json.object [("type_name", .string name),
      ("internal_type", element.toJson)]).canonical = .ok t := by
  have hrecord : (recordFields child).read "WireType" false
      (Json.object [("type_name", .string name),
        ("internal_type", element.toJson)]).canonical = .ok ⟨name, none, some element⟩ := by
    apply eq_ok_of_toOption
    have hread : readOption child element.toJson.canonical = .ok (some element) := by
      rw [readOption_of_ne_null (canonical_toJson_ne_null element), hchild]
      rfl
    simp [recordFields, Fields.field, Fields.optional, Fields.given, Dict.get?_cons, hread]
  exact readNode_of_record hrecord h

theorem readNode_object (child : Reader Descriptor) {fields : List (String × Descriptor)}
    (hsorted : Dict.Sorted fields)
    (hchild : ∀ e ∈ fields, child e.2.toJson.canonical = .ok e.2) :
    readNode child (object fields).toJson.canonical = .ok (object fields) := by
  have hrecord : (recordFields child).read "WireType" false
      (object fields).toJson.canonical = .ok ⟨"object", some fields, none⟩ := by
    apply eq_ok_of_toOption
    have hread : readOption (readDict child)
        (Json.object (Dict.mapValues toJson fields)).canonical = .ok (some fields) := by
      rw [readOption_of_ne_null, readDict_canonical hsorted hchild]
      · rfl
      · rw [canonical]
        exact fun h => by cases h
    rw [toJson_object]
    simp [recordFields, Fields.field, Fields.optional, Fields.given, Dict.get?_cons, hread]
  exact readNode_of_record hrecord rfl

/-- A node reads back if its children do. -/
theorem readNode_toJson (child : Reader Descriptor) {t : Descriptor} (h : t.Ordered)
    (hchild : ∀ u ∈ t.children, child u.toJson.canonical = .ok u) :
    readNode child t.toJson.canonical = .ok t := by
  cases t with
  | primitive kind => cases kind <;> exact readNode_leaf child rfl
  | object fields =>
      rw [Ordered] at h
      exact readNode_object child h.1 fun e he =>
        hchild e.2 (List.mem_map_of_mem he)
  | map element =>
      cases element with
      | none => exact readNode_leaf child rfl
      | some u => exact readNode_element child rfl (hchild u (List.mem_cons_self ..))
  | list element =>
      cases element with
      | none => exact readNode_leaf child rfl
      | some u => exact readNode_element child rfl (hchild u (List.mem_cons_self ..))
  | dynamic => exact readNode_leaf child rfl
  | invalid => exact readNode_leaf child rfl

-- =============================================================== depth

/-- A child's record stands inside that of its parent. -/
theorem depth_child_lt {t u : Descriptor} (h : t.Ordered) (hu : u ∈ t.children) :
    u.toJson.canonical.depth < t.toJson.canonical.depth := by
  have helement : ∀ name, u.toJson.canonical.depth
      < (Json.object [("type_name", .string name),
          ("internal_type", u.toJson)]).canonical.depth := by
    intro name
    refine depth_lt_of_member? (k := "internal_type") ?_
    rw [member?_canonical (by simp)]
    rfl
  cases t with
  | primitive | dynamic | invalid => cases hu
  | object fields =>
      rw [Ordered] at h
      obtain ⟨e, he, rfl⟩ := List.mem_map.1 hu
      have hinner : e.2.toJson.canonical.depth
          < (Json.object (Dict.mapValues toJson fields)).canonical.depth := by
        rw [canonical_mapValues toJson h.1]
        exact depth_lt_of_mem (e := (e.1, e.2.toJson.canonical))
          (List.mem_map_of_mem he)
      have houter : (Json.object (Dict.mapValues toJson fields)).canonical.depth
          < (object fields).toJson.canonical.depth := by
        refine depth_lt_of_member? (k := "nested_values") ?_
        rw [toJson_object, member?_canonical (by simp)]
        rfl
      exact Nat.lt_trans hinner houter
  | map element =>
      cases element with
      | none => cases hu
      | some v => exact List.mem_singleton.1 hu ▸ helement "map"
  | list element =>
      cases element with
      | none => cases hu
      | some v => exact List.mem_singleton.1 hu ▸ helement "list"

/-- Children are ordered where their parent is. -/
theorem Ordered.child {t u : Descriptor} (h : t.Ordered) (hu : u ∈ t.children) :
    u.Ordered := by
  cases t with
  | primitive | dynamic | invalid => cases hu
  | object fields =>
      rw [Ordered] at h
      obtain ⟨e, he, rfl⟩ := List.mem_map.1 hu
      exact orderedFields_iff.1 h.2 e he
  | map element =>
      cases element with
      | none => cases hu
      | some v => rw [List.mem_singleton.1 hu]; rwa [Ordered] at h
  | list element =>
      cases element with
      | none => cases hu
      | some v => rw [List.mem_singleton.1 hu]; rwa [Ordered] at h

/-- As many levels as the record has are enough. -/
theorem readWithin_toJson (levels : Nat) : ∀ {t : Descriptor}, t.Ordered →
    t.toJson.canonical.depth < levels → readWithin levels t.toJson.canonical = .ok t := by
  induction levels with
  | zero => exact fun _ hd => absurd hd (Nat.not_lt_zero _)
  | succ levels ih =>
      intro t h hd
      refine readNode_toJson _ h fun u hu => ih (h.child hu) ?_
      exact Nat.lt_of_lt_of_le (depth_child_lt h hu) (Nat.le_of_lt_succ hd)

/-- A descriptor reads back from its record. -/
theorem read_canonical {t : Descriptor} (h : t.Ordered) :
    read t.toJson.canonical = .ok t :=
  readWithin_toJson _ h (Nat.lt_succ_self _)

-- ============================================================ legible

mutual

/-- There are no numbers in a descriptor's record. -/
theorem legible_toJson : (t : Descriptor) → t.toJson.Legible
  | primitive _ => ⟨trivial, trivial⟩
  | object fields => ⟨trivial, legible_fieldsToJson fields, trivial⟩
  | map none => ⟨trivial, trivial⟩
  | map (some element) => ⟨trivial, legible_toJson element, trivial⟩
  | list none => ⟨trivial, trivial⟩
  | list (some element) => ⟨trivial, legible_toJson element, trivial⟩
  | dynamic => ⟨trivial, trivial⟩
  | invalid => ⟨trivial, trivial⟩

/-- Nor in those of fields. -/
theorem legible_fieldsToJson : (fields : List (String × Descriptor)) →
    LegibleMembers (fieldsToJson fields)
  | [] => trivial
  | (_, type) :: rest => ⟨legible_toJson type, legible_fieldsToJson rest⟩

end

end ProviderLink.Descriptor
