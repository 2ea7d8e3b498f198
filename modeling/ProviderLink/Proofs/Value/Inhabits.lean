/-
What it is for a value to be of a type, apart from the procedure that
checks it. `Inhabits` says when a value is of a type, by one rule for
each way to be so, and `fill` says what becomes of the value: every
member stays where it is, and an object-typed place gets `null` under
each name that it lacks.

The check walks the fields of an object type and looks the members up;
the rules walk the members and look the fields up. `conformAt_eq_ok`
says that the two agree, by induction on the type. In the object case
both sides have built a sorted table of members, so it is enough to
compare lookups (`fieldValues_eq_withNulls`), and there a name falls under one
of three cases: the value has it, only the type has it, or neither has.
-/
import ProviderLink.Proofs.Json.Canonical
import ProviderLink.Proofs.Outcome
import ProviderLink.Value.ValueType

namespace ProviderLink

-- ============================================================== nulls

namespace Json

/-- The members, with `null` for each of the names that they lack. -/
def withNulls : List String → Dict String Json → Dict String Json
  | [], members => members
  | name :: rest, members =>
    if Dict.has name members then withNulls rest members
    else Dict.insert name null (withNulls rest members)

theorem get?_withNulls (k : String) (names : List String)
    (members : Dict String Json) :
    Dict.get? k (withNulls names members)
      = (Dict.get? k members).or (if k ∈ names then some null else none) := by
  induction names with
  | nil => simp [withNulls]
  | cons name rest ih =>
      rw [withNulls]
      by_cases hk : k = name
      · subst hk
        split
        case isTrue hhas =>
          obtain ⟨v, hv⟩ := Dict.has_iff.1 hhas
          rw [ih, hv, Option.some_or, Option.some_or]
        case isFalse hlacks =>
          have hnone : Dict.get? k members = none :=
            Option.not_isSome_iff_eq_none.1 hlacks
          rw [Dict.get?_insert_self, hnone, Option.none_or, if_pos (List.mem_cons_self ..)]
      · have hrest : k ∈ name :: rest ↔ k ∈ rest := by
          rw [List.mem_cons, or_iff_right hk]
        split
        case isTrue => simp only [ih, hrest]
        case isFalse => simp only [Dict.get?_insert_of_ne hk, ih, hrest]

theorem sorted_withNulls (names : List String) {members : Dict String Json}
    (h : Dict.Sorted members) : Dict.Sorted (withNulls names members) := by
  induction names with
  | nil => exact h
  | cons name rest ih =>
      rw [withNulls]
      split
      · exact ih
      · exact Dict.sorted_insert name null ih

end Json

namespace ValueType

open Json

-- =========================================================== the rules

/-- The value is of the type. -/
inductive Inhabits : ValueType → Json → Prop
  | null (type : ValueType) : Inhabits type .null
  | nil (v : Json) : Inhabits .nil v
  | string (s : String) : Inhabits .string (.string s)
  | number (n : Number) : Inhabits .number (.number n)
  | bool (b : Bool) : Inhabits .bool (.bool b)
  | object {fields : List (String × ValueType)} {members : List (String × Json)}
      (named : ∀ k v, Dict.get? k members = some v → Dict.has k fields)
      (fits : ∀ k v type, Dict.get? k members = some v →
        Dict.get? k fields = some type → Inhabits type v) :
      Inhabits (.object fields) (.object members)
  | map {element : ValueType} {members : List (String × Json)}
      (fits : ∀ k v, Dict.get? k members = some v → Inhabits element v) :
      Inhabits (.map element) (.object members)
  | list {element : ValueType} {items : List Json}
      (fits : ∀ v ∈ items, Inhabits element v) :
      Inhabits (.list element) (.array items)

mutual

/-- The value with `null` for what is left out of its object-typed places. -/
def fill : ValueType → Json → Json
  | object fields, .object members =>
    .object (withNulls (Dict.keys fields)
      (members.map fun e => (e.1, fillField fields e.1 e.2)))
  | map element, .object members =>
    .object (Dict.mapValues (fun v => fill element v) members)
  | list element, .array items => .array (items.map fun v => fill element v)
  | _, v => v
termination_by structural type => type

/-- A member filled by the type of the field with its name. -/
def fillField : List (String × ValueType) → String → Json → Json
  | [], _, v => v
  | (name, type) :: rest, k, v => if k = name then fill type v else fillField rest k v
termination_by structural fields => fields

end

/-- What a member is filled by. -/
theorem fillField_eq (fields : List (String × ValueType)) (k : String) (v : Json) :
    fillField fields k v
      = match Dict.get? k fields with
        | some type => type.fill v
        | none => v := by
  induction fields with
  | nil => rfl
  | cons e fields ih =>
      rw [fillField, Dict.get?_cons]
      split
      case isTrue => rfl
      case isFalse => exact ih

@[simp] theorem fill_null (type : ValueType) : type.fill .null = .null := by
  cases type <;> rfl

/-- Filling leaves nothing out. -/
theorem fill_eq_null {type : ValueType} {v : Json} : type.fill v = .null ↔ v = .null := by
  refine ⟨fun h => ?_, fun h => h ▸ fill_null type⟩
  cases v with
  | null => rfl
  | _ => cases type <;> cases h

theorem fillField_eq_null {fields : List (String × ValueType)} {k : String} {v : Json} :
    fillField fields k v = .null ↔ v = .null := by
  rw [fillField_eq]
  cases Dict.get? k fields with
  | some type => exact fill_eq_null
  | none => exact Iff.rfl

-- ==================================================== members and items

variable {conform : Path → Json → Except Mismatch Json} {fits : Json → Prop}
  {normal : Json → Json} {path : Path}

/-- Members conform if each does. -/
theorem conformMembers_eq_ok : ∀ {members out : List (String × Json)},
    (∀ e ∈ members, ∀ p n, conform p e.2 = .ok n ↔ fits e.2 ∧ n = normal e.2) →
    (conformMembers conform path members = .ok out ↔
      (∀ e ∈ members, fits e.2) ∧ out = Dict.mapValues normal members)
  | [], out, _ => by simp [conformMembers, Dict.mapValues, eq_comm]
  | (name, v) :: rest, out, h => by
      have hrest : ∀ out, conformMembers conform path rest = .ok out ↔ _ := fun _ =>
        conformMembers_eq_ok fun e he => h e (List.mem_cons_of_mem _ he)
      simp only [conformMembers, bind_eq_ok, h _ (List.mem_cons_self ..), hrest]
      constructor
      · rintro ⟨_, ⟨hv, rfl⟩, _, ⟨hall, rfl⟩, hout⟩
        cases hout
        exact ⟨List.forall_mem_cons.2 ⟨hv, hall⟩, rfl⟩
      · rintro ⟨hall, rfl⟩
        obtain ⟨hv, hall⟩ := List.forall_mem_cons.1 hall
        exact ⟨_, ⟨hv, rfl⟩, _, ⟨hall, rfl⟩, rfl⟩

/-- Items conform if each does. -/
theorem conformItems_eq_ok : ∀ {items out : List Json} {index : Nat},
    (∀ v ∈ items, ∀ p n, conform p v = .ok n ↔ fits v ∧ n = normal v) →
    (conformItems conform path index items = .ok out ↔
      (∀ v ∈ items, fits v) ∧ out = items.map normal)
  | [], out, _, _ => by simp [conformItems, eq_comm]
  | v :: rest, out, index, h => by
      have hrest : ∀ out, conformItems conform path (index + 1) rest = .ok out ↔ _ :=
        fun _ => conformItems_eq_ok fun w hw => h w (List.mem_cons_of_mem _ hw)
      simp only [conformItems, bind_eq_ok, h _ (List.mem_cons_self ..), hrest]
      constructor
      · rintro ⟨_, ⟨hv, rfl⟩, _, ⟨hall, rfl⟩, hout⟩
        cases hout
        exact ⟨List.forall_mem_cons.2 ⟨hv, hall⟩, rfl⟩
      · rintro ⟨hall, rfl⟩
        obtain ⟨hv, hall⟩ := List.forall_mem_cons.1 hall
        exact ⟨_, ⟨hv, rfl⟩, _, ⟨hall, rfl⟩, rfl⟩

-- ============================================================== objects

/-- Every member is named by a field, if no first one is not. -/
theorem unnamed?_eq_none {fields : List (String × ValueType)}
    {members : List (String × Json)} :
    unnamed? fields members = none ↔
      ∀ k v, Dict.get? k members = some v → Dict.has k fields := by
  unfold unnamed?
  rw [List.find?_eq_none]
  constructor
  · intro h k v hk
    simpa using h k (Dict.mem_keys.2 ⟨v, hk⟩)
  · intro h k hk
    obtain ⟨v, hv⟩ := Dict.mem_keys.1 hk
    simp [h k v hv]

/-- What the check makes of an object: the member of every field, filled. -/
def fieldValues (fields : List (String × ValueType)) (members : List (String × Json)) :
    List (String × Json) :=
  fields.map fun e => (e.1, e.2.fill (orNull (Dict.get? e.1 members)))

theorem get?_fieldValues (k : String) (fields : List (String × ValueType))
    (members : List (String × Json)) :
    Dict.get? k (fieldValues fields members)
      = (Dict.get? k fields).map fun type => type.fill (orNull (Dict.get? k members)) :=
  Dict.get?_map (fun name (type : ValueType) => type.fill (orNull (Dict.get? name members)))
    k fields

/-- Where every member has a field, what the check makes is the members
with what they lack. -/
theorem fieldValues_eq_withNulls {fields : List (String × ValueType)}
    {members : List (String × Json)} (hfields : Dict.Sorted fields)
    (hmembers : Dict.Sorted members)
    (hnamed : ∀ k v, Dict.get? k members = some v → Dict.has k fields) :
    fieldValues fields members = withNulls (Dict.keys fields)
      (members.map fun e => (e.1, fillField fields e.1 e.2)) := by
  have hvalues : Dict.Sorted (fieldValues fields members) := List.pairwise_map.2 hfields
  have hfilled : Dict.Sorted (members.map fun e => (e.1, fillField fields e.1 e.2)) :=
    List.pairwise_map.2 hmembers
  refine Dict.eq_of_get? hvalues (sorted_withNulls _ hfilled) fun k => ?_
  rw [get?_fieldValues, get?_withNulls, Dict.get?_map (fillField fields)]
  cases hv : Dict.get? k members with
  | some v =>
      -- a member that is there has a field, and that fills it on both sides
      obtain ⟨type, htype⟩ := Dict.has_iff.1 (hnamed k v hv)
      rw [htype, Option.map_some, Option.map_some, fillField_eq, htype]
      rfl
  | none =>
      cases htype : Dict.get? k fields with
      | some type => simp [orNull, Dict.mem_keys, htype]
      | none => simp [Dict.mem_keys, htype]

/-- A value inhabits an object type if the type names its members and
each field's type has the member of that name, if only as `null`. -/
theorem inhabits_object_iff {fields : List (String × ValueType)}
    {members : List (String × Json)} (hfields : Dict.Sorted fields) :
    (object fields).Inhabits (.object members) ↔
      (∀ k v, Dict.get? k members = some v → Dict.has k fields) ∧
      ∀ e ∈ fields, e.2.Inhabits (orNull (Dict.get? e.1 members)) := by
  constructor
  · intro h
    cases h with
    | object named fits =>
        refine ⟨named, fun e he => ?_⟩
        cases hv : Dict.get? e.1 members with
        | some v => exact fits e.1 v e.2 hv (Dict.get?_of_sorted hfields he)
        | none => exact .null _
  · rintro ⟨hnamed, hfits⟩
    refine .object hnamed fun k v type hv htype => ?_
    have hfit := hfits (k, type) (Dict.mem_of_get? htype)
    rw [hv] at hfit
    exact hfit

theorem inhabits_map_iff {element : ValueType} {members : List (String × Json)}
    (hmembers : Dict.Sorted members) :
    (map element).Inhabits (.object members) ↔ ∀ e ∈ members, element.Inhabits e.2 := by
  constructor
  · intro h e he
    cases h with
    | map fits => exact fits e.1 e.2 (Dict.get?_of_sorted hmembers he)
  · exact fun h => .map fun k v hv => h (k, v) (Dict.mem_of_get? hv)

theorem inhabits_list_iff {element : ValueType} {items : List Json} :
    (list element).Inhabits (.array items) ↔ ∀ v ∈ items, element.Inhabits v :=
  ⟨fun h => by cases h with | list fits => exact fits, .list⟩

-- ============================================================ the check

/-- A value that is of the type as it stands. -/
theorem conformAt_eq_ok_of_self {type : ValueType} {path : Path} {v n : Json}
    (hself : conformAt type path v = .ok v) (hv : type.Inhabits v)
    (hfill : type.fill v = v) :
    conformAt type path v = .ok n ↔ type.Inhabits v ∧ n = type.fill v := by
  rw [hself, hfill]
  exact ⟨fun h => ⟨hv, (Except.ok.inj h).symm⟩, fun h => congrArg _ h.2.symm⟩

mutual

/-- Conforming gives a value's filled form, and gives it to the values of
the type alone. -/
theorem conformAt_eq_ok : (type : ValueType) → type.Ordered →
    ∀ {path : Path} {v n : Json}, v.Ordered →
      (conformAt type path v = .ok n ↔ type.Inhabits v ∧ n = type.fill v)
  | nil, _, path, v, n, _ => by
      cases v <;> exact conformAt_eq_ok_of_self rfl (.nil _) rfl
  | string, _, path, v, n, _ => by
      cases v with
      | null => exact conformAt_eq_ok_of_self rfl (.null _) rfl
      | string s => exact conformAt_eq_ok_of_self rfl (.string s) rfl
      | _ => exact iff_of_false nofun fun h => nomatch h.1
  | number, _, path, v, n, _ => by
      cases v with
      | null => exact conformAt_eq_ok_of_self rfl (.null _) rfl
      | number m => exact conformAt_eq_ok_of_self rfl (.number m) rfl
      | _ => exact iff_of_false nofun fun h => nomatch h.1
  | bool, _, path, v, n, _ => by
      cases v with
      | null => exact conformAt_eq_ok_of_self rfl (.null _) rfl
      | bool b => exact conformAt_eq_ok_of_self rfl (.bool b) rfl
      | _ => exact iff_of_false nofun fun h => nomatch h.1
  | object fields, h, path, v, n, hv => by
      cases v with
      | null => exact conformAt_eq_ok_of_self rfl (.null _) rfl
      | object members =>
          rw [Ordered] at h
          rw [Json.Ordered] at hv
          rw [inhabits_object_iff h.1, conformAt, fill]
          cases hunnamed : unnamed? fields members with
          | some name =>
              -- the check stops at this name, and no rule takes it
              refine iff_of_false nofun fun hfits => ?_
              rw [unnamed?_eq_none.2 hfits.1.1] at hunnamed
              cases hunnamed
          | none =>
              have hnamed := unnamed?_eq_none.1 hunnamed
              simp only [map_eq_ok, conformFields_eq_ok fields h.2 hv.2,
                fieldValues_eq_withNulls h.1 hv.1 hnamed, and_assoc, exists_and_left,
                exists_eq_left]
              exact (and_iff_right hnamed).symm
      | _ => exact iff_of_false nofun fun h => nomatch h.1
  | map element, h, path, v, n, hv => by
      cases v with
      | null => exact conformAt_eq_ok_of_self rfl (.null _) rfl
      | object members =>
          rw [Json.Ordered] at hv
          have hmembers : ∀ out,
              conformMembers (fun p v => conformAt element p v) path members = .ok out ↔ _ :=
            fun _ => conformMembers_eq_ok fun e he _ _ =>
              conformAt_eq_ok element h (orderedMembers_iff.1 hv.2 e he)
          rw [inhabits_map_iff hv.1, conformAt, fill]
          simp only [map_eq_ok, hmembers, and_assoc, exists_and_left, exists_eq_left]
      | _ => exact iff_of_false nofun fun h => nomatch h.1
  | list element, h, path, v, n, hv => by
      cases v with
      | null => exact conformAt_eq_ok_of_self rfl (.null _) rfl
      | array items =>
          have hitems : ∀ out,
              conformItems (fun p v => conformAt element p v) path 0 items = .ok out ↔ _ :=
            fun _ => conformItems_eq_ok fun v hmem _ _ =>
              conformAt_eq_ok element h (orderedItems_iff.1 hv v hmem)
          rw [inhabits_list_iff, conformAt, fill]
          simp only [map_eq_ok, hitems, and_assoc, exists_and_left, exists_eq_left]
      | _ => exact iff_of_false nofun fun h => nomatch h.1

/-- So it goes for every field of an object. -/
theorem conformFields_eq_ok : (fields : List (String × ValueType)) →
    OrderedFields fields → ∀ {path : Path} {members out : List (String × Json)},
      OrderedMembers members →
      (conformFields fields path members = .ok out ↔
        (∀ e ∈ fields, e.2.Inhabits (orNull (Dict.get? e.1 members))) ∧
        out = fieldValues fields members)
  | [], _, path, members, out, _ => by simp [conformFields, fieldValues, eq_comm]
  | (name, type) :: rest, h, path, members, out, hm => by
      rw [OrderedFields] at h
      have hmember : (orNull (Dict.get? name members)).Ordered := by
        cases hv : Dict.get? name members with
        | some v => exact orderedMembers_iff.1 hm _ (Dict.mem_of_get? hv)
        | none => trivial
      simp only [conformFields, bind_eq_ok, conformAt_eq_ok type h.1 hmember,
        conformFields_eq_ok rest h.2 hm]
      constructor
      · rintro ⟨_, ⟨hv, rfl⟩, _, ⟨hall, rfl⟩, hout⟩
        cases hout
        exact ⟨List.forall_mem_cons.2 ⟨hv, hall⟩, rfl⟩
      · rintro ⟨hall, rfl⟩
        obtain ⟨hv, hall⟩ := List.forall_mem_cons.1 hall
        exact ⟨_, ⟨hv, rfl⟩, _, ⟨hall, rfl⟩, rfl⟩

end

end ValueType

end ProviderLink
