/-
What is left of a descriptor as a type of dynamic values. The descriptor
of such a type stands for that very type (`toValueType_ofValueType`), but
a descriptor that leaves something open does not come back as it was: it
comes back `settled`, with strings for each element that it leaves unsaid
and `dynamic` for each of its `invalid` nodes, however deep they stand.

Settling changes nothing that a value is held to (`toValueType_settled`)
and leaves nothing open (`explicit_settled`). An explicit descriptor
comes back as it is, so the settled one is what both it and the
descriptor before come back as. Reading and writing look at a descriptor
through its value type alone and so cannot tell the two apart.
-/
import ProviderLink.Codec
import ProviderLink.Proofs.Descriptor.Conversion
import ProviderLink.Proofs.Value.Normal

namespace ProviderLink.Descriptor

-- ============================================================= settling

mutual

/-- The descriptor with `string` for each element left unsaid and `dynamic` for each `invalid`
node. -/
def settled : Descriptor → Descriptor
  | primitive kind => primitive kind
  | object fields => object (settledFields fields)
  | map (some element) => map (some element.settled)
  | map none => map (some (primitive .string))
  | list (some element) => list (some element.settled)
  | list none => list (some (primitive .string))
  | dynamic | invalid => dynamic

/-- Every field settled. -/
def settledFields : List (String × Descriptor) → List (String × Descriptor)
  | [] => []
  | (name, type) :: rest => (name, type.settled) :: settledFields rest

end

theorem settledFields_eq (fields : List (String × Descriptor)) :
    settledFields fields = Dict.mapValues settled fields := by
  induction fields with
  | nil => rfl
  | cons e fields ih =>
      rw [settledFields, ih]
      rfl

/-- Settling keeps the type of the values. -/
theorem toValueType_settled (t : Descriptor) : t.settled.toValueType = t.toValueType := by
  induction t using children_induction with
  | node t ih =>
      cases t with
      | primitive | dynamic | invalid => rfl
      | object fields =>
          rw [settled, toValueType, toValueType, fieldValueTypes_eq, fieldValueTypes_eq,
            settledFields_eq]
          refine congrArg ValueType.object ((List.map_map ..).trans ?_)
          refine List.map_congr_left fun e he => ?_
          exact congrArg (Prod.mk e.1) (ih e.2 (List.mem_map_of_mem he))
      | map element | list element =>
          cases element with
          | none => rfl
          | some element =>
              rw [settled, toValueType, toValueType, ih element (List.mem_singleton_self _)]

theorem explicit_primitive (kind : Primitive) : (primitive kind).Explicit :=
  forall_inside_childless rfl ⟨nofun, nofun, nofun⟩

theorem explicit_dynamic : dynamic.Explicit :=
  forall_inside_childless rfl ⟨nofun, nofun, nofun⟩

/-- A map whose element leaves nothing open leaves nothing open. -/
theorem Explicit.map {element : Descriptor} (h : element.Explicit) :
    (Descriptor.map (some element)).Explicit :=
  explicit_iff.2 ⟨⟨nofun, nofun, nofun⟩, List.forall_mem_singleton.2 h⟩

theorem Explicit.list {element : Descriptor} (h : element.Explicit) :
    (Descriptor.list (some element)).Explicit :=
  explicit_iff.2 ⟨⟨nofun, nofun, nofun⟩, List.forall_mem_singleton.2 h⟩

/-- A settled descriptor leaves nothing open. -/
theorem explicit_settled (t : Descriptor) : t.settled.Explicit := by
  induction t using children_induction with
  | node t ih =>
      cases t with
      | primitive kind => exact explicit_primitive kind
      | dynamic | invalid => exact explicit_dynamic
      | object fields =>
          rw [settled, settledFields_eq]
          refine explicit_iff.2 ⟨⟨nofun, nofun, nofun⟩, ?_⟩
          rw [children, List.forall_mem_map, Dict.mapValues, List.forall_mem_map]
          exact fun e he => ih e.2 (List.mem_map_of_mem he)
      | map element =>
          cases element with
          | none => exact (explicit_primitive .string).map
          | some element => exact (ih element (List.mem_singleton_self _)).map
      | list element =>
          cases element with
          | none => exact (explicit_primitive .string).list
          | some element => exact (ih element (List.mem_singleton_self _)).list

-- ======================================================= there and back

/-- The descriptor of a value type stands for that type. -/
theorem toValueType_ofValueType (u : ValueType) : (ofValueType u).toValueType = u := by
  induction u using ValueType.fields_induction with
  | string | number | bool | nil => rfl
  | object fields ih =>
      rw [ofValueType, toValueType, ofFieldValueTypes_eq, fieldValueTypes_eq]
      refine congrArg ValueType.object ((List.map_map ..).trans ?_)
      refine (List.map_congr_left fun e he => ?_).trans (List.map_id fields)
      exact congrArg (Prod.mk e.1) (ih e he)
  | map element ih | list element ih => rw [ofValueType, toValueType, ih]

/-- What a descriptor comes back as. -/
theorem ofValueType_toValueType_eq_settled (t : Descriptor) :
    ofValueType t.toValueType = t.settled := by
  rw [← toValueType_settled, ofValueType_toValueType _ t.explicit_settled]

/-- A descriptor is settled as it is if it leaves nothing open. -/
theorem settled_eq_self_iff {t : Descriptor} : t.settled = t ↔ t.Explicit := by
  constructor
  · intro h
    rw [← h]
    exact t.explicit_settled
  · intro h
    rw [← ofValueType_toValueType_eq_settled, ofValueType_toValueType t h]

/-- A value type comes back from its descriptor as it was. A descriptor comes back from its value
type settled: unchanged exactly if none of its nodes is `invalid` and every map and list says its
element, and in any case such that whatever is read or written under it is read or written the same
as under the descriptor before, and refused in the same words. -/
theorem conversion_settles :
    (∀ u : ValueType, (ofValueType u).toValueType = u)
      ∧ ∀ t : Descriptor, ofValueType t.toValueType = t.settled
        ∧ (ofValueType t.toValueType = t ↔ t.Explicit)
        ∧ (∀ bytes, Codec.decodeValue bytes t.settled = Codec.decodeValue bytes t)
        ∧ ∀ v, Codec.encodeOutput v t.settled = Codec.encodeOutput v t := by
  refine ⟨toValueType_ofValueType, fun t => ⟨ofValueType_toValueType_eq_settled t, ?_, ?_, ?_⟩⟩
  · rw [ofValueType_toValueType_eq_settled, settled_eq_self_iff]
  · intro bytes
    rw [Codec.decodeValue, Codec.decodeValue, toValueType_settled]
  · intro v
    rw [Codec.encodeOutput, Codec.encodeOutput, toValueType_settled]

/-- What could not be made out may be anything, below a list and a field as well. -/
example :
    ofValueType (toValueType (.list (some (.object [("labels", .map none), ("stage", .invalid)]))))
      = .list (some (.object [("labels", .map (some (.primitive .string))),
          ("stage", .dynamic)])) := rfl

end ProviderLink.Descriptor
