/-
Descriptors and the types of dynamic values they stand for, there and
back. The way there loses what a descriptor leaves open: an element that
is unsaid becomes a string, and `invalid` becomes what `dynamic` does. A
descriptor that is explicit has neither, so nothing is lost on it
(`ofValueType_toValueType`), and what is read from a value that describes
a type is explicit, whichever grammar reads it (`decode_survives`).

The constraint grammar is the narrower one: it has no rule for maps nor
for what may be anything, so none of its nodes is either
(`Constrains.plain`).
-/
import ProviderLink.Proofs.Descriptor.Explicit
import ProviderLink.Proofs.Schema.Satisfies

namespace ProviderLink.Descriptor

-- ======================================================= there and back

theorem ofFieldValueTypes_eq (fields : List (String × ValueType)) :
    ofFieldValueTypes fields = Dict.mapValues ofValueType fields := by
  induction fields with
  | nil => rfl
  | cons e fields ih =>
      rw [ofFieldValueTypes, ih]
      rfl

/-- An explicit descriptor is that of the type it stands for. -/
theorem ofValueType_toValueType (t : Descriptor) : t.Explicit → ofValueType t.toValueType = t := by
  induction t using children_induction with
  | node t ih =>
      intro h
      obtain ⟨⟨hinvalid, hmap, hlist⟩, hchildren⟩ := explicit_iff.1 h
      have hback : ∀ u ∈ t.children, ofValueType u.toValueType = u :=
        fun u hu => ih u hu (hchildren u hu)
      cases t with
      | primitive kind => cases kind <;> rfl
      | dynamic => rfl
      | invalid => exact absurd rfl hinvalid
      | object fields =>
          rw [toValueType, fieldValueTypes_eq, ofValueType, ofFieldValueTypes_eq]
          refine congrArg object ((List.map_map ..).trans ?_)
          refine (List.map_congr_left fun e he => ?_).trans (List.map_id fields)
          exact congrArg (Prod.mk e.1) (hback e.2 (List.mem_map_of_mem he))
      | map element =>
          cases element with
          | none => exact absurd rfl hmap
          | some element =>
              rw [toValueType, ofValueType, hback element (List.mem_singleton_self _)]
      | list element =>
          cases element with
          | none => exact absurd rfl hlist
          | some element =>
              rw [toValueType, ofValueType, hback element (List.mem_singleton_self _)]

-- ================================================================ plain

/-- No node is a map, and none may be anything. -/
def Plain (t : Descriptor) : Prop :=
  ∀ u, Inside u t → u ≠ dynamic ∧ ∀ element, u ≠ map element

/-- The constraint grammar derives no maps and nothing that may be anything. -/
theorem Constrains.plain {v : Json} {t : Descriptor} (h : Constrains v t) : t.Plain :=
  h.forall_inside (fun _ => ⟨nofun, nofun⟩) (fun _ => ⟨nofun, nofun⟩) fun _ => ⟨nofun, nofun⟩

-- ============================================================== decoded

/-- A type that is described leaves nothing open, by either grammar. -/
theorem Describes.explicit {v : Json} {t : Descriptor} (h : Describes v t) : t.Explicit := by
  cases h with
  | constraint _ derived => exact derived.explicit
  | marker _ _ derived => exact derived.explicit

/-- A type that is read from a value has no `invalid` node and no map or list without an element,
and none of its nodes is a map or `dynamic` if it was read by the constraint grammar. So it is the
type of the dynamic values that it stands for, made a descriptor again. -/
theorem decode_survives {v : Json} {t : Descriptor} (h : decode v = .ok t) :
    t.Explicit ∧ (isFormat v = true → t.Plain) ∧ ofValueType t.toValueType = t := by
  have hdescribes := ((decode_iff_describes v).1 t).1 h
  refine ⟨hdescribes.explicit, fun hformat => ?_,
    t.ofValueType_toValueType hdescribes.explicit⟩
  cases hdescribes with
  | constraint _ derived => exact derived.plain
  | marker hshape => exact absurd (isFormat_iff.1 hformat) hshape

/-- A marker for a node that has nothing but its type. -/
def demoMarker (type : String) : Json := .object [("type_name", .string type)]

/-- Labels of any kind by name, and a list of stages each with its limit. -/
def demoMarked : Json :=
  .object [("nested_values", .object
    [("labels", .object [("internal_type", demoMarker "dynamic"), ("type_name", .string "map")]),
      ("stages", .object [("internal_type", .object
        [("nested_values", .object [("limit", demoMarker "number")]),
          ("type_name", .string "object")]), ("type_name", .string "list")])]),
    ("type_name", .string "object")]

/-- A list of stages as constraints. -/
def demoConstraint : Json :=
  .object [("children", .object [("limit", .object [("required", .bool true),
    ("type", .string "number")])]), ("required", .null), ("type", .string "list")]

/-- Maps and what may be anything come back as well; constraints have neither. -/
theorem decode_survives_demo :
    decode demoMarked = .ok (.object [("labels", .map (some .dynamic)),
        ("stages", .list (some (.object [("limit", .primitive .number)])))])
      ∧ ofValueType (toValueType (.object [("labels", .map (some .dynamic)),
          ("stages", .list (some (.object [("limit", .primitive .number)])))]))
        = .object [("labels", .map (some .dynamic)),
          ("stages", .list (some (.object [("limit", .primitive .number)])))]
      ∧ decode demoConstraint = .ok (.list (some (.object [("limit", .primitive .number)])))
      ∧ isFormat demoConstraint = true
      ∧ Plain (.list (some (.object [("limit", .primitive .number)]))) := by
  have hmarked : decode demoMarked = .ok (.object [("labels", .map (some .dynamic)),
      ("stages", .list (some (.object [("limit", .primitive .number)])))]) := rfl
  have hconstraint : decode demoConstraint
      = .ok (.list (some (.object [("limit", .primitive .number)]))) := rfl
  have hformat : isFormat demoConstraint = true := by decide
  exact ⟨hmarked, (decode_survives hmarked).2.2, hconstraint, hformat,
    (decode_survives hconstraint).2.1 hformat⟩

end ProviderLink.Descriptor
