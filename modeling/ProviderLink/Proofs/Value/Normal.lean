/-
Normal forms. Conforming a value fills it, and a filled value is one
that conforming leaves alone: it is still of its type (`inhabits_fill`)
and filling it again adds nothing (`fill_fill`). A filled value of a
schema is likewise one that satisfies the schema (`satisfies_fill`), so
what is read from an input may be read again as it stands; and as filling
adds nothing but nulls to objects that are there, it can be written and
read from its text if it could be before (`legible_fill`,
`depth_fill_le`).

The induction is on the type. A lookup in a filled object finds the
member that was there, filled, or else a null where the type has a field
(`get?_withNulls`), so the hypothesis for the field is all that each
case needs.
-/
import ProviderLink.Proofs.Schema.Satisfies

namespace ProviderLink

open Json

-- ============================================================== nulls

/-- What is put in is null. -/
theorem Json.mem_withNulls {names : List String} {members : Dict String Json}
    {e : String × Json} (h : e ∈ withNulls names members) : e ∈ members ∨ e.2 = .null := by
  induction names with
  | nil => exact Or.inl h
  | cons name rest ih =>
      rw [withNulls] at h
      split at h
      case isTrue => exact ih h
      case isFalse =>
        rcases Dict.mem_insert h with rfl | h
        · exact Or.inr rfl
        · exact ih h

namespace ValueType

-- ============================================================ induction

mutual

/-- What holds of a type if it holds of the types in its fields and of
its element holds of every type. -/
@[elab_as_elim]
theorem fields_induction {motive : ValueType → Prop} (string : motive .string)
    (number : motive .number) (bool : motive .bool) (nil : motive .nil)
    (object : ∀ fields, (∀ e ∈ fields, motive e.2) → motive (.object fields))
    (map : ∀ element, motive element → motive (.map element))
    (list : ∀ element, motive element → motive (.list element)) :
    (type : ValueType) → motive type
  | .string => string
  | .number => number
  | .bool => bool
  | .nil => nil
  | .object fields =>
    object fields (fields_induction_fields string number bool nil object map list fields)
  | .map element =>
    map element (fields_induction string number bool nil object map list element)
  | .list element =>
    list element (fields_induction string number bool nil object map list element)

theorem fields_induction_fields {motive : ValueType → Prop} (string : motive .string)
    (number : motive .number) (bool : motive .bool) (nil : motive .nil)
    (object : ∀ fields, (∀ e ∈ fields, motive e.2) → motive (.object fields))
    (map : ∀ element, motive element → motive (.map element))
    (list : ∀ element, motive element → motive (.list element)) :
    (fields : List (String × ValueType)) → ∀ e ∈ fields, motive e.2
  | [] => nofun
  | (_, type) :: rest =>
    List.forall_mem_cons.2 ⟨fields_induction string number bool nil object map list type,
      fields_induction_fields string number bool nil object map list rest⟩

end

-- =============================================================== filled

/-- What a filled object has under a name. -/
theorem get?_fill (fields : List (String × ValueType)) (members : List (String × Json))
    (k : String) :
    Dict.get? k (withNulls (Dict.keys fields)
        (members.map fun e => (e.1, fillField fields e.1 e.2)))
      = ((Dict.get? k members).map (fillField fields k)).or
          (if k ∈ Dict.keys fields then some .null else none) := by
  rw [get?_withNulls, Dict.get?_map (fillField fields)]

theorem fillField_of_get? {fields : List (String × ValueType)} {k : String}
    {type : ValueType} (h : Dict.get? k fields = some type) (v : Json) :
    fillField fields k v = type.fill v := by
  rw [fillField_eq, h]

/-- What holds of null, and of each member as it is and filled by the type of any field, holds of
all that a filled object has. -/
theorem forall_filled {P : Json → Prop} {fields : List (String × ValueType)}
    {members : List (String × Json)} (hnull : P .null)
    (hmembers : ∀ e ∈ members, P e.2 ∧ ∀ field ∈ fields, P (field.2.fill e.2)) :
    ∀ e ∈ withNulls (Dict.keys fields) (members.map fun e => (e.1, fillField fields e.1 e.2)),
      P e.2 := by
  intro e he
  rcases mem_withNulls he with he | hadded
  · obtain ⟨written, hmem, rfl⟩ := List.mem_map.1 he
    obtain ⟨hwritten, hfilled⟩ := hmembers written hmem
    rw [fillField_eq]
    cases htype : Dict.get? written.1 fields with
    | none => exact hwritten
    | some type => exact hfilled _ (Dict.mem_of_get? htype)
  · rw [hadded]
    exact hnull

/-- A filled value is of the type that the value is of. -/
theorem inhabits_fill (type : ValueType) : ∀ {v : Json}, type.Inhabits v →
    type.Inhabits (type.fill v) := by
  induction type using fields_induction with
  | string | number | bool =>
      intro v h
      cases h <;> constructor
  | nil => exact fun _ => .nil _
  | object fields ih =>
      intro v h
      cases h with
      | null => exact .null _
      | object named fits =>
          refine .object (fun k w hk => ?_) fun k w type hk htype => ?_
          · rw [get?_fill] at hk
            rcases Option.or_eq_some_iff.1 hk with hk | ⟨-, hk⟩
            · obtain ⟨v, hv, -⟩ := Option.map_eq_some_iff.1 hk
              exact named k v hv
            · split at hk
              case isTrue hkey => exact Dict.has_iff_mem_keys.2 hkey
              case isFalse => cases hk
          · rw [get?_fill] at hk
            rcases Option.or_eq_some_iff.1 hk with hk | ⟨-, hk⟩
            · obtain ⟨v, hv, rfl⟩ := Option.map_eq_some_iff.1 hk
              rw [fillField_of_get? htype]
              exact ih _ (Dict.mem_of_get? htype) (fits k v type hv htype)
            · split at hk
              case isTrue =>
                cases hk
                exact .null _
              case isFalse => cases hk
  | map element ih =>
      intro v h
      cases h with
      | null => exact .null _
      | map fits =>
          refine .map fun k w hk => ?_
          rw [Dict.get?_mapValues] at hk
          obtain ⟨v, hv, rfl⟩ := Option.map_eq_some_iff.1 hk
          exact ih (fits k v hv)
  | list element ih =>
      intro v h
      cases h with
      | null => exact .null _
      | list fits =>
          refine .list fun w hw => ?_
          obtain ⟨v, hv, rfl⟩ := List.mem_map.1 hw
          exact ih (fits v hv)

/-- Filling keeps a value ordered. -/
theorem ordered_fill (type : ValueType) : ∀ {v : Json}, v.Ordered →
    (type.fill v).Ordered := by
  induction type using fields_induction with
  | string | number | bool | nil => exact fun h => h
  | object fields ih =>
      intro v h
      cases v with
      | object members =>
          rw [Json.Ordered] at h
          have hfilled : Dict.Sorted (members.map fun e => (e.1, fillField fields e.1 e.2)) :=
            List.pairwise_map.2 h.1
          have hmembers := orderedMembers_iff.1 h.2
          rw [fill, Json.Ordered]
          exact ⟨sorted_withNulls _ hfilled, orderedMembers_iff.2 <| forall_filled trivial
            fun e he => ⟨hmembers e he, fun field hfield => ih field hfield (hmembers e he)⟩⟩
      | _ => exact h
  | map element ih =>
      intro v h
      cases v with
      | object members =>
          rw [Json.Ordered] at h
          rw [fill, Json.Ordered]
          have hmembers := orderedMembers_iff.1 h.2
          exact ⟨(Dict.sorted_mapValues _).2 h.1, orderedMembers_iff.2 <|
            List.forall_mem_map.2 fun e he => ih (hmembers e he)⟩
      | _ => exact h
  | list element ih =>
      intro v h
      cases v with
      | array items =>
          rw [Json.Ordered] at h
          rw [fill, Json.Ordered]
          have hitems := orderedItems_iff.1 h
          exact orderedItems_iff.2 (List.forall_mem_map.2 fun v hv => ih (hitems v hv))
      | _ => exact h

/-- Filling puts no number in. -/
theorem legible_fill (type : ValueType) : ∀ {v : Json}, v.Legible → (type.fill v).Legible := by
  induction type using fields_induction with
  | string | number | bool | nil => exact fun h => h
  | object fields ih =>
      intro v h
      cases v with
      | object members =>
          have hmembers := legibleMembers_iff.1 h
          rw [fill]
          exact legibleMembers_iff.2 <| forall_filled trivial fun e he =>
            ⟨hmembers e he, fun field hfield => ih field hfield (hmembers e he)⟩
      | _ => exact h
  | map element ih =>
      intro v h
      cases v with
      | object members =>
          have hmembers := legibleMembers_iff.1 h
          rw [fill]
          exact legibleMembers_iff.2 (List.forall_mem_map.2 fun e he => ih (hmembers e he))
      | _ => exact h
  | list element ih =>
      intro v h
      cases v with
      | array items =>
          have hitems := legibleItems_iff.1 h
          rw [fill]
          exact legibleItems_iff.2 (List.forall_mem_map.2 fun v hv => ih (hitems v hv))
      | _ => exact h

/-- Filling opens no level: nulls go into objects that are there. -/
theorem depth_fill_le (type : ValueType) : ∀ v : Json, (type.fill v).depth ≤ v.depth := by
  induction type using fields_induction with
  | string | number | bool | nil => exact fun v => Nat.le_refl v.depth
  | object fields ih =>
      intro v
      cases v with
      | object members =>
          have hmembers := depthMembers_le.1 (Nat.le_refl (depthMembers members))
          rw [fill, depth, depth]
          refine Nat.succ_le_succ (depthMembers_le.2 <|
            forall_filled (P := fun v => v.depth ≤ depthMembers members) (Nat.zero_le _)
              fun e he => ⟨hmembers e he, fun field hfield => ?_⟩)
          exact Nat.le_trans (ih field hfield e.2) (hmembers e he)
      | _ => exact Nat.le_refl _
  | map element ih =>
      intro v
      cases v with
      | object members =>
          have hmembers := depthMembers_le.1 (Nat.le_refl (depthMembers members))
          rw [fill, depth, depth]
          exact Nat.succ_le_succ (depthMembers_le.2 <| List.forall_mem_map.2 fun e he =>
            Nat.le_trans (ih e.2) (hmembers e he))
      | _ => exact Nat.le_refl _
  | list element ih =>
      intro v
      cases v with
      | array items =>
          have hitems := depthItems_le.1 (Nat.le_refl (depthItems items))
          rw [fill, depth, depth]
          exact Nat.succ_le_succ (depthItems_le.2 <| List.forall_mem_map.2 fun v hv =>
            Nat.le_trans (ih v) (hitems v hv))
      | _ => exact Nat.le_refl _

/-- A filled value lacks nothing. -/
theorem fill_fill (type : ValueType) : ∀ {v : Json}, v.Ordered →
    type.fill (type.fill v) = type.fill v := by
  induction type using fields_induction with
  | string | number | bool | nil => exact fun _ => rfl
  | object fields ih =>
      intro v h
      cases v with
      | object members =>
          have hfilled := ordered_fill (.object fields) h
          have htwice := ordered_fill (.object fields) hfilled
          rw [fill] at hfilled htwice ⊢
          rw [fill] at htwice ⊢
          rw [Json.Ordered] at h hfilled htwice
          refine congrArg Json.object (Dict.eq_of_get? htwice.1 hfilled.1 fun k => ?_)
          rw [get?_fill, get?_fill]
          cases hv : Dict.get? k members with
          | some v =>
              have hv := orderedMembers_iff.1 h.2 _ (Dict.mem_of_get? hv)
              rw [Option.map_some, Option.some_or, Option.map_some, Option.some_or,
                fillField_eq, fillField_eq]
              cases htype : Dict.get? k fields with
              | none => rfl
              | some type => exact congrArg some (ih _ (Dict.mem_of_get? htype) hv)
          | none =>
              rw [Option.map_none, Option.none_or]
              split
              case isTrue => rw [Option.map_some, fillField_eq_null.2 rfl, Option.some_or]
              case isFalse => rfl
      | _ => rfl
  | map element ih =>
      intro v h
      cases v with
      | object members =>
          rw [Json.Ordered] at h
          refine congrArg Json.object ?_
          refine (List.map_map ..).trans (List.map_congr_left fun e he => ?_)
          exact congrArg (Prod.mk e.1) (ih (orderedMembers_iff.1 h.2 e he))
      | _ => rfl
  | list element ih =>
      intro v h
      cases v with
      | array items =>
          rw [Json.Ordered] at h
          refine congrArg Json.array ?_
          refine (List.map_map ..).trans (List.map_congr_left fun v hv => ?_)
          exact ih (orderedItems_iff.1 h v hv)
      | _ => rfl

end ValueType

namespace ObjectSchema

/-- Filling keeps a value ordered, a schema's filling as well. -/
theorem ordered_fill {s : ObjectSchema} (h : s.Ordered) {v : Json} (hv : v.Ordered) :
    (s.fill v).Ordered := by
  rw [← fill_valueType s h hv]
  exact ValueType.ordered_fill _ hv

theorem fill_fill {s : ObjectSchema} (h : s.Ordered) {v : Json} (hv : v.Ordered) :
    s.fill (s.fill v) = s.fill v := by
  rw [← fill_valueType s h (ordered_fill h hv), ← fill_valueType s h hv,
    ValueType.fill_fill _ hv]

/-- What satisfies a schema satisfies it filled. -/
theorem satisfies_fill {s : ObjectSchema} (h : s.Ordered) {v : Json} (hv : v.Ordered)
    (hs : s.Satisfies v) : s.Satisfies (s.fill v) := by
  obtain ⟨hne, hfits, hcheck⟩ := (satisfies_iff s h .root hv).1 hs
  refine (satisfies_iff s h .root (ordered_fill h hv)).2 ?_
  rw [← fill_valueType s h hv, ValueType.fill_fill _ hv]
  exact ⟨fun hnull => hne (ValueType.fill_eq_null.1 hnull), ValueType.inhabits_fill _ hfits,
    hcheck⟩

end ObjectSchema

end ProviderLink
