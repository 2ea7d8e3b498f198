/-
Two readers of one notation. The record of a descriptor carries the
markers that the marker grammar goes by, so the same value may be read as
a type described as data or as a record. The grammar looks at what it
needs of a node and passes over the rest; the record reader refuses a node
that has fields or an element and is of a name that has none.

That is all they differ in. Where the grammar derives a type, the record
stands for that type and no other, if none of the nodes that the grammar
comes to has anything that is not its own (`Marks.records_iff`, by
induction on the derivation). Both sides go by the name of the node, so
there is one lemma of each side for an object, for a map or list, and for
what has neither fields nor element.

The other way round the record of an object is a description of it as
long as it is explicit (`Explicit.marks`): its markers keep it out of the
constraint grammar.
-/
import ProviderLink.Proofs.Descriptor.Explicit

namespace ProviderLink.Descriptor

open Json

-- ============================================================== visits

/-- Read by its markers, the first value leads to the second. -/
inductive Leads : Json → Json → Prop
  | field {members nested : List (String × Json)} {e : String × Json}
    (htype : Marked members "object")
    (hnested : Dict.get? "nested_values" members = some (.object nested)) (hmem : e ∈ nested) :
    Leads (.object members) e.2
  | element {members : List (String × Json)} {name : String} {inner : Json}
    (htype : Marked members name) (hname : name = "map" ∨ name = "list")
    (hinner : Dict.get? "internal_type" members = some inner) : Leads (.object members) inner

/-- Reading the first value by its markers comes to the second as a node. -/
inductive Visits : Json → Json → Prop
  | self (v : Json) : Visits v v
  | onward {v u w : Json} (hleads : Leads v u) (hvisits : Visits u w) : Visits v w

/-- A node carries what only nodes of another name may have. -/
inductive Misplaced (v : Json) : Prop
  | nestedValues (hname : v.text? "type_name" ≠ some "object")
    (hgiven : orNull (v.member? "nested_values") ≠ null) : Misplaced v
  | internalType (hmap : v.text? "type_name" ≠ some "map")
    (hlist : v.text? "type_name" ≠ some "list")
    (hgiven : orNull (v.member? "internal_type") ≠ null) : Misplaced v

/-- No node that is visited carries what is not its own. -/
def Tidy (v : Json) : Prop := ¬∃ w, Visits v w ∧ Misplaced w

/-- Tidiness goes down level by level. -/
theorem tidy_iff {v : Json} : Tidy v ↔ ¬Misplaced v ∧ ∀ u, Leads v u → Tidy u := by
  constructor
  · intro htidy
    refine ⟨fun hmisplaced => htidy ⟨_, .self _, hmisplaced⟩, fun u hleads => ?_⟩
    rintro ⟨w, hvisits, hmisplaced⟩
    exact htidy ⟨w, .onward hleads hvisits, hmisplaced⟩
  · rintro ⟨hplaced, honward⟩ ⟨w, hvisits, hmisplaced⟩
    cases hvisits with
    | self => exact hplaced hmisplaced
    | onward hleads hvisits => exact honward _ hleads ⟨w, hvisits, hmisplaced⟩

section Nodes

variable {members nested : List (String × Json)} {name : String} {inner : Json}

theorem Marked.unique {other : String} (h : Marked members name) (h' : Marked members other) :
    name = other :=
  Json.string.inj (Option.some.inj (h.symm.trans h'))

theorem Marked.text? (h : Marked members name) :
    (Json.object members).text? "type_name" = some name := by
  change (Dict.get? "type_name" members).bind string? = some name
  rw [h]
  rfl

/-- What a node of a name must not have. -/
theorem not_misplaced_iff (h : Marked members name) :
    ¬Misplaced (.object members) ↔
      (name ≠ "object" → orNull (Dict.get? "nested_values" members) = null)
        ∧ (name ≠ "map" → name ≠ "list" →
          orNull (Dict.get? "internal_type" members) = null) := by
  have hname : ∀ s, (Json.object members).text? "type_name" ≠ some s ↔ name ≠ s := fun s => by
    rw [h.text?, ne_eq, Option.some.injEq]
  constructor
  · intro hplaced
    refine ⟨fun hobject => Decidable.byContradiction fun hgiven => ?_,
      fun hmap hlist => Decidable.byContradiction fun hgiven => ?_⟩
    · exact hplaced (.nestedValues ((hname _).2 hobject) hgiven)
    · exact hplaced (.internalType ((hname _).2 hmap) ((hname _).2 hlist) hgiven)
  · rintro ⟨hnested, hinner⟩ hmisplaced
    cases hmisplaced with
    | nestedValues hobject hgiven => exact hgiven (hnested ((hname _).1 hobject))
    | internalType hmap hlist hgiven =>
        exact hgiven (hinner ((hname _).1 hmap) ((hname _).1 hlist))

/-- Nothing stands in a node without fields and element. -/
theorem tidy_childless (h : Marked members name) (hobject : name ≠ "object")
    (hmap : name ≠ "map") (hlist : name ≠ "list") :
    Tidy (.object members) ↔ orNull (Dict.get? "nested_values" members) = null
      ∧ orNull (Dict.get? "internal_type" members) = null := by
  have hleads : ∀ u, ¬Leads (.object members) u := by
    intro u hleads
    cases hleads with
    | field htype => exact hobject (h.unique htype)
    | element htype hname =>
        obtain rfl := h.unique htype
        exact not_or.2 ⟨hmap, hlist⟩ hname
  rw [tidy_iff, not_misplaced_iff h]
  simp [hobject, hmap, hlist, hleads]

/-- In an object stand its fields. -/
theorem tidy_object (h : Marked members "object")
    (hnested : Dict.get? "nested_values" members = some (.object nested)) :
    Tidy (.object members) ↔
      orNull (Dict.get? "internal_type" members) = null ∧ ∀ e ∈ nested, Tidy e.2 := by
  have honward : (∀ u, Leads (.object members) u → Tidy u) ↔ ∀ e ∈ nested, Tidy e.2 := by
    refine ⟨fun h' e he => h' _ (.field h hnested he), fun h' u hleads => ?_⟩
    cases hleads with
    | field _ hnested' hmem =>
        cases hnested.symm.trans hnested'
        exact h' _ hmem
    | element htype hname =>
        obtain rfl := h.unique htype
        exact absurd hname (by decide)
  rw [tidy_iff, not_misplaced_iff h, honward]
  simp

/-- In a map or list stands its element. -/
theorem tidy_element (h : Marked members name) (hname : name = "map" ∨ name = "list")
    (hinner : Dict.get? "internal_type" members = some inner) :
    Tidy (.object members) ↔
      orNull (Dict.get? "nested_values" members) = null ∧ Tidy inner := by
  have hobject : name ≠ "object" := by rcases hname with rfl | rfl <;> decide
  have honward : (∀ u, Leads (.object members) u → Tidy u) ↔ Tidy inner := by
    refine ⟨fun h' => h' _ (.element h hname hinner), fun h' u hleads => ?_⟩
    cases hleads with
    | field htype => exact absurd (h.unique htype) hobject
    | element _ _ hinner' =>
        cases hinner.symm.trans hinner'
        exact h'
  rw [tidy_iff, not_misplaced_iff h, honward]
  rcases hname with rfl | rfl <;> simp

-- ============================================================= records

/-- What a record with a name stands for, where that has neither fields nor element. -/
theorem records_childless {t u : Descriptor} (ht : t.children = [])
    (h : Marked members t.typeName) (hobject : t.typeName ≠ "object")
    (hmap : t.typeName ≠ "map") (hlist : t.typeName ≠ "list") :
    Records (.object members) u ↔ u = t
      ∧ orNull (Dict.get? "nested_values" members) = null
      ∧ orNull (Dict.get? "internal_type" members) = null := by
  constructor
  · intro hu
    cases hu with
    | childless hchildren hnode =>
        have hname : t.typeName = u.typeName := h.unique hnode.typeName
        have hsame := Record.toDescriptor_childless ht
        rw [hname, Record.toDescriptor_childless hchildren] at hsame
        exact ⟨Except.ok.inj hsame, hnode.nestedValues, hnode.internalType⟩
    | object hnode => exact absurd (h.unique hnode.typeName) hobject
    | map hnode => exact absurd (h.unique hnode.typeName) hmap
    | list hnode => exact absurd (h.unique hnode.typeName) hlist
  · rintro ⟨rfl, hnested, hinner⟩
    exact .childless ht ⟨trivial, h, hnested, hinner⟩

theorem records_object {u : Descriptor} (h : Marked members "object")
    (hnested : Dict.get? "nested_values" members = some (.object nested)) :
    Records (.object members) u ↔ orNull (Dict.get? "internal_type" members) = null
      ∧ ∃ fields, Fields Records nested fields ∧ u = .object fields := by
  have hgiven : ∀ {v}, orNull (Dict.get? "nested_values" members) = v → .object nested = v :=
    fun hv => by rw [← hv, hnested]; rfl
  constructor
  · intro hu
    cases hu with
    | childless _ hnode => cases hgiven hnode.nestedValues
    | object hnode hfields =>
        cases hgiven hnode.nestedValues
        exact ⟨hnode.internalType, _, hfields, rfl⟩
    | map hnode => cases hgiven hnode.nestedValues
    | list hnode => cases hgiven hnode.nestedValues
  · rintro ⟨hinner, fields, hfields, rfl⟩
    exact .object ⟨trivial, h, by rw [Json.field?, hnested]; rfl, hinner⟩ hfields

theorem records_element {make : Option Descriptor → Descriptor} {u : Descriptor}
    (hmake : make = .map ∧ name = "map" ∨ make = .list ∧ name = "list")
    (h : Marked members name) (hinner : Dict.get? "internal_type" members = some inner)
    (hne : inner ≠ null) :
    Records (.object members) u ↔ orNull (Dict.get? "nested_values" members) = null
      ∧ ∃ element, Records inner element ∧ u = make (some element) := by
  have hgiven : ∀ {v}, orNull (Dict.get? "internal_type" members) = v → inner = v :=
    fun hv => by rw [← hv, hinner]; rfl
  constructor
  · intro hu
    cases hu with
    | childless _ hnode => exact absurd (hgiven hnode.internalType) hne
    | object hnode => exact absurd (hgiven hnode.internalType) hne
    | map hnode helement =>
        cases hgiven hnode.internalType
        rcases hmake with ⟨rfl, -⟩ | ⟨-, rfl⟩
        · exact ⟨hnode.nestedValues, _, helement, rfl⟩
        · exact absurd (h.unique hnode.typeName) (by decide)
    | list hnode helement =>
        cases hgiven hnode.internalType
        rcases hmake with ⟨-, rfl⟩ | ⟨rfl, -⟩
        · exact absurd (h.unique hnode.typeName) (by decide)
        · exact ⟨hnode.nestedValues, _, helement, rfl⟩
  · rintro ⟨hnested, element, helement, rfl⟩
    have hnode : Node (.object members) name null inner :=
      ⟨trivial, h, hnested, by rw [Json.field?, hinner]; rfl⟩
    rcases hmake with ⟨rfl, rfl⟩ | ⟨rfl, rfl⟩
    · exact .map hnode helement
    · exact .list hnode helement

end Nodes

-- ========================================================== agreement

/-- Fields that stand for one thing each, if for anything, stand for one list of fields. -/
theorem fields_iff {R : Json → Descriptor → Prop} {P : Json → Prop}
    {members : List (String × Json)} {fields others : List (String × Descriptor)}
    (h : Fields (fun v t => ∀ u, R v u ↔ u = t ∧ P v) members fields) :
    Fields R members others ↔ others = fields ∧ ∀ e ∈ members, P e.2 := by
  induction h generalizing others with
  | nil => simp [fields_nil]
  | cons name first _ ih =>
      simp only [fields_cons, first, ih, List.forall_mem_cons]
      constructor
      · rintro ⟨_, _, ⟨rfl, hfirst⟩, ⟨rfl, hrest⟩, rfl⟩
        exact ⟨rfl, hfirst, hrest⟩
      · rintro ⟨rfl, hfirst, hrest⟩
        exact ⟨_, _, ⟨rfl, hfirst⟩, ⟨rfl, hrest⟩, rfl⟩

theorem Fields.mono {R S : Json → Descriptor → Prop} {members : List (String × Json)}
    {fields : List (String × Descriptor)} (h : Fields R members fields)
    (hRS : ∀ v t, R v t → S v t) : Fields S members fields := by
  induction h with
  | nil => exact .nil
  | cons name first _ ih => exact .cons name (hRS _ _ first) ih

/-- A map or list is read alike if its element is. -/
theorem records_iff_of_element {make : Option Descriptor → Descriptor} {name : String}
    {members inner : List (String × Json)} {t : Descriptor}
    (hmake : make = .map ∧ name = "map" ∨ make = .list ∧ name = "list")
    (h : Marked members name)
    (hinner : Dict.get? "internal_type" members = some (.object inner))
    (helement : ∀ u, Records (.object inner) u ↔ u = t ∧ Tidy (.object inner)) (u : Descriptor) :
    Records (.object members) u ↔ u = make (some t) ∧ Tidy (.object members) := by
  have hname : name = "map" ∨ name = "list" := hmake.imp And.right And.right
  rw [records_element hmake h hinner nofun, tidy_element h hname hinner]
  simp only [helement]
  constructor
  · rintro ⟨hnested, _, ⟨rfl, htidy⟩, rfl⟩
    exact ⟨rfl, hnested, htidy⟩
  · rintro ⟨rfl, hnested, htidy⟩
    exact ⟨hnested, _, ⟨rfl, htidy⟩, rfl⟩

/-- As a record, a value stands for the type that its markers derive, if for any, and it stands
for that if it is tidy. -/
theorem Marks.records_iff {v : Json} {t : Descriptor} (h : Marks v t) :
    ∀ u, Records v u ↔ u = t ∧ Tidy v := by
  induction h using Marks.induction with
  | primitive kind htype =>
      intro u
      have hobject : kind.name ≠ "object" := by cases kind <;> decide
      have hmap : kind.name ≠ "map" := by cases kind <;> decide
      have hlist : kind.name ≠ "list" := by cases kind <;> decide
      rw [tidy_childless htype hobject hmap hlist]
      exact records_childless (t := .primitive kind) rfl htype hobject hmap hlist
  | dynamic htype =>
      intro u
      rw [tidy_childless htype (by decide) (by decide) (by decide)]
      exact records_childless (t := .dynamic) rfl htype (by decide) (by decide) (by decide)
  | object htype hnested _ ih =>
      intro u
      have hfields : ∀ others, Fields Records _ others ↔ _ := fun _ =>
        fields_iff (ih.mono fun _ _ h => h.elim fun _ hiff => hiff)
      rw [records_object htype hnested, tidy_object htype hnested]
      simp only [hfields]
      constructor
      · rintro ⟨hinner, _, ⟨rfl, htidy⟩, rfl⟩
        exact ⟨rfl, hinner, htidy⟩
      · rintro ⟨rfl, hinner, htidy⟩
        exact ⟨hinner, _, ⟨rfl, htidy⟩, rfl⟩
  | map htype hinner _ ih => exact records_iff_of_element (.inl ⟨rfl, rfl⟩) htype hinner ih
  | list htype hinner _ ih => exact records_iff_of_element (.inr ⟨rfl, rfl⟩) htype hinner ih

-- ============================================================= written

/-- A record of few members, once in key order, has them under their names. -/
theorem get?_record (written : List (String × Json)) (h : (Dict.keys written).Nodup) :
    ∃ members, (Json.object written).canonical = .object members
      ∧ ∀ k, Dict.get? k members = (Dict.get? k written).map canonical :=
  ⟨_, by rw [canonical], member?_canonical h⟩

/-- The record of a node with a name and something under one more key. -/
theorem marked_record (name key : String) (hkey : key ≠ "type_name") (v : Json) :
    ∃ members, (Json.object [("type_name", .string name), (key, v)]).canonical = .object members
      ∧ Marked members name ∧ Dict.get? key members = some v.canonical
      ∧ ∀ k, k ≠ "type_name" → k ≠ key → Dict.get? k members = none := by
  obtain ⟨members, hcanonical, hget⟩ := get?_record [("type_name", .string name), (key, v)]
    (by simpa using Ne.symm hkey)
  refine ⟨members, hcanonical, ?_, ?_, fun k hname hother => ?_⟩
  · simp [Marked, hget, Dict.get?_cons]
  · simp [hget, Dict.get?_cons, hkey]
  · simp [hget, Dict.get?_cons, hname, hother]

/-- The record of a node with a name alone. -/
theorem marked_name (name : String) :
    ∃ members, (Json.object [("type_name", .string name)]).canonical = .object members
      ∧ Marked members name := by
  obtain ⟨members, hcanonical, hget⟩ := get?_record [("type_name", .string name)] (by simp)
  exact ⟨members, hcanonical, by simp [Marked, hget, Dict.get?_cons]⟩

/-- The records of fields describe them if each does. -/
theorem fields_mapValues {R : Json → Descriptor → Prop} {f : Descriptor → Json}
    {fields : List (String × Descriptor)} (h : ∀ e ∈ fields, R (f e.2) e.2) :
    Fields R (Dict.mapValues f fields) fields := by
  induction fields with
  | nil => exact .nil
  | cons e fields ih =>
      obtain ⟨hfirst, hrest⟩ := List.forall_mem_cons.1 h
      exact .cons e.1 hfirst (ih hrest)

theorem Marks.exists_members {v : Json} {t : Descriptor} (h : Marks v t) :
    ∃ members, v = .object members := by
  cases h <;> exact ⟨_, rfl⟩

/-- The record of an explicit descriptor describes it by its markers. -/
theorem Explicit.marks {t : Descriptor} : t.Ordered → t.Explicit → Marks t.toJson.canonical t := by
  induction t using children_induction with
  | node t ih =>
      intro hordered hexplicit
      obtain ⟨⟨hinvalid, hmap, hlist⟩, hchildren⟩ := explicit_iff.1 hexplicit
      have hmarks : ∀ u ∈ t.children, Marks u.toJson.canonical u :=
        fun u hu => ih u hu (hordered.child hu) (hchildren u hu)
      have helement : ∀ (name : String) {u : Descriptor}, u ∈ t.children →
          ∃ members inner, (Json.object [("type_name", .string name),
              ("internal_type", u.toJson)]).canonical = .object members
            ∧ Marked members name ∧ Dict.get? "internal_type" members = some (.object inner)
            ∧ Marks (.object inner) u := by
        intro name u hu
        obtain ⟨inner, hinner⟩ := (hmarks u hu).exists_members
        obtain ⟨members, hcanonical, hname, hget, -⟩ :=
          marked_record name "internal_type" (by decide) u.toJson
        rw [hinner] at hget
        exact ⟨members, inner, hcanonical, hname, hget, hinner ▸ hmarks u hu⟩
      cases t with
      | primitive kind =>
          obtain ⟨members, hcanonical, hname⟩ := marked_name kind.name
          rw [toJson, hcanonical]
          exact .primitive kind hname
      | dynamic =>
          obtain ⟨members, hcanonical, hname⟩ := marked_name "dynamic"
          rw [toJson, hcanonical]
          exact .dynamic hname
      | invalid => exact absurd rfl hinvalid
      | object fields =>
          rw [Ordered] at hordered
          obtain ⟨members, hcanonical, hname, hget, -⟩ := marked_record "object"
            "nested_values" (by decide) (.object (Dict.mapValues toJson fields))
          rw [canonical_mapValues toJson hordered.1] at hget
          rw [toJson_object, hcanonical]
          exact .object hname hget
            (fields_mapValues fun e he => hmarks e.2 (List.mem_map_of_mem he))
      | map element =>
          cases element with
          | none => exact absurd rfl hmap
          | some u =>
              obtain ⟨members, inner, hcanonical, hname, hget, hu⟩ :=
                helement "map" (List.mem_singleton_self u)
              rw [toJson, hcanonical]
              exact .map hname hget hu
      | list element =>
          cases element with
          | none => exact absurd rfl hlist
          | some u =>
              obtain ⟨members, inner, hcanonical, hname, hget, hu⟩ :=
                helement "list" (List.mem_singleton_self u)
              rw [toJson, hcanonical]
              exact .list hname hget hu

/-- The record of an object has no shape of the constraint grammar: it has no `type`, and its
name is no leaf. -/
theorem shapeless_object (fields : List (String × Descriptor)) :
    ∃ members, (Descriptor.object fields).toJson.canonical = .object members
      ∧ Marked members "object" ∧ ¬(IsLeaf (.object members) ∨ IsKeyValue (.object members)) := by
  obtain ⟨members, hcanonical, hname, -, hnothing⟩ := marked_record "object" "nested_values"
    (by decide) (.object (Dict.mapValues toJson fields))
  refine ⟨members, by rw [toJson_object, hcanonical], hname, ?_⟩
  rintro (hleaf | hmap)
  · obtain ⟨type, hleaf⟩ := leaf_of_object.1 hleaf
    cases (hnothing "type" (by decide) (by decide)).symm.trans hleaf.type
  · obtain ⟨_, _, heq, -⟩ := (keyValue_of_object.1 hmap).leaves _ (Dict.mem_of_get? hname)
    cases heq

/-- An explicit object is read from its record as it is. -/
theorem decode_toJson {fields : List (String × Descriptor)}
    (h : (Descriptor.object fields).Ordered) (hexplicit : (Descriptor.object fields).Explicit) :
    decode (Descriptor.object fields).toJson.canonical = .ok (.object fields) := by
  obtain ⟨members, hcanonical, hname, hshape⟩ := shapeless_object fields
  have hmarks := hexplicit.marks h
  rw [hcanonical] at hmarks ⊢
  rw [decode, mapError_eq_ok, ofValue_eq_ok]
  exact .marker hshape hname.text? hmarks

-- ================================================================ both

/-- What is read of the value is read by its markers: it has no shape of the constraint grammar,
but a type name. -/
structure ByMarkers (v : Json) : Prop where
  shapeless : ¬(IsLeaf v ∨ IsKeyValue v)
  named : (v.member? "type_name").isSome

theorem ByMarkers.ofValue_eq {v : Json} (h : ByMarkers v) : ofValue v = ofMarkerRoot v := by
  rw [ofValue, if_neg fun hshape => h.shapeless (isFormat_iff.1 hshape), if_pos h.named]

/-- Where markers are read as a type, reading the same value as a record comes to that type as
well, unless some node that the markers lead to carries fields and is no object, or carries an
element and is no map or list; then it fails. And an object that leaves nothing open is read from
its record by its markers. -/
theorem readings_agree :
    (∀ {v t}, v.Ordered → ByMarkers v → decode v = .ok t →
      (Readable v ↔ ¬∃ w, Visits v w ∧ Misplaced w) ∧ ∀ u, read v = .ok u → u = t)
      ∧ ∀ {fields}, (Descriptor.object fields).Ordered → (Descriptor.object fields).Explicit →
        decode (Descriptor.object fields).toJson.canonical = .ok (.object fields) := by
  refine ⟨fun {v t} hv hmarkers hdecode => ?_, decode_toJson⟩
  rw [decode, mapError_eq_ok, hmarkers.ofValue_eq, ofMarkerRoot_eq_ok] at hdecode
  have hread : ∀ u, read v = .ok u ↔ u = t ∧ Tidy v := fun u =>
    (read_eq_ok hv).trans (hdecode.2.records_iff u)
  refine ⟨⟨?_, fun htidy => ⟨t, (hread t).2 ⟨rfl, htidy⟩⟩⟩, fun u hu => ((hread u).1 hu).1⟩
  rintro ⟨u, hu⟩
  exact ((hread u).1 hu).2

/-- An object of a list of anything and of a text, where the text has something under a key that
is not its own. -/
def demoMarkers (key : String) (v : Json) : Json :=
  .object [("nested_values", .object [
      ("at", .object [("internal_type", .object [("type_name", .string "dynamic")]),
        ("type_name", .string "list")]),
      ("by", .object [(key, v), ("type_name", .string "string")])]),
    ("type_name", .string "object")]

/-- The fields of that object. -/
def demoFields : List (String × Descriptor) :=
  [("at", .list (some .dynamic)), ("by", .primitive .string)]

/-- A null there is nothing, and fields, if only none, are too much. -/
theorem readings_agree_unless_misplaced :
    (demoMarkers "internal_type" .null).Ordered
      ∧ decode (demoMarkers "internal_type" .null) = .ok (.object demoFields)
      ∧ read (demoMarkers "internal_type" .null) = .ok (.object demoFields)
      ∧ (¬∃ w, Visits (demoMarkers "internal_type" .null) w ∧ Misplaced w)
      ∧ (demoMarkers "nested_values" (.object [])).Ordered
      ∧ decode (demoMarkers "nested_values" (.object [])) = .ok (.object demoFields)
      ∧ ¬Readable (demoMarkers "nested_values" (.object []))
      ∧ (Descriptor.object demoFields).Ordered ∧ (Descriptor.object demoFields).Explicit
      ∧ decode (Descriptor.object demoFields).toJson.canonical = .ok (.object demoFields) := by
  have hmarkers : ∀ key v, ByMarkers (demoMarkers key v) := by
    refine fun key v => ⟨?_, rfl⟩
    rw [← isFormat_iff]
    exact Bool.false_ne_true
  have hclean : (demoMarkers "internal_type" .null).Ordered := by decide
  have hstray : (demoMarkers "nested_values" (.object [])).Ordered := by decide
  have hdecode : decode (demoMarkers "internal_type" .null) = .ok (.object demoFields) := rfl
  have hread : read (demoMarkers "internal_type" .null) = .ok (.object demoFields) := rfl
  have hdecodeStray : decode (demoMarkers "nested_values" (.object []))
      = .ok (.object demoFields) := rfl
  obtain ⟨hagree, hwritten⟩ := readings_agree
  have htidy := (hagree hclean (hmarkers _ _) hdecode).1.1 ⟨_, hread⟩
  have hunread : ¬Readable (demoMarkers "nested_values" (.object [])) := fun h =>
    (hagree hstray (hmarkers _ _) hdecodeStray).1.1 h
      ⟨_, .onward (.field rfl rfl (List.mem_cons_of_mem _ (List.mem_singleton_self _))) (.self _),
        .nestedValues (by decide) (by decide)⟩
  have hordered : (Descriptor.object demoFields).Ordered := by decide
  have hexplicit : (Descriptor.object demoFields).Explicit := by
    have hofValue := mapError_eq_ok.1 hdecode
    rw [(hmarkers _ _).ofValue_eq, ofMarkerRoot_eq_ok] at hofValue
    exact hofValue.2.explicit
  exact ⟨hclean, hdecode, hread, htidy, hstray, hdecodeStray, hunread, hordered, hexplicit,
    hwritten hordered hexplicit⟩

end ProviderLink.Descriptor
