/-
Which values are record forms of descriptors. What a value stands for is
said by a relation with one rule for each way of writing a node
(`Records`), in terms of what the three fields hold (`Node`): an object
may leave its fields unsaid, a map or list its element, and whatever may
be left out may also be `null`. The reader is held to the relation node by
node, and to its end by the levels of the value (`readWithin_eq_ok`).

Reading takes the children of a node before it asks whether a node of this
name may have them; since a node that must not have any is refused
whatever they are, nothing of that order shows in what is read.

With the converse for what is written (`read_canonical`) this is a round
trip both ways: a descriptor reads back, and what is read, once written
again, reads as the same descriptor (`read_record_forms`).
-/
import ProviderLink.Proofs.Descriptor.Grammar
import ProviderLink.Proofs.Json.Record
import ProviderLink.Proofs.Ordered
import ProviderLink.Proofs.Schema.Record

namespace ProviderLink.Descriptor

open Json Json.Fields

-- ============================================================= records

/-- A record by what its fields hold; what may be left out counts as `null` where it is. -/
structure Node (v : Json) (name : String) (nested inner : Json) : Prop where
  form : v.IsRecord 3
  typeName : v.field? 0 "type_name" = some (.string name)
  nestedValues : orNull (v.field? 1 "nested_values") = nested
  internalType : orNull (v.field? 2 "internal_type") = inner

/-- What a value stands for. -/
inductive Records : Json → Descriptor → Prop
  | childless {v : Json} {t : Descriptor} (hchildren : t.children = [])
    (hnode : Node v t.typeName null null) : Records v t
  | object {v : Json} {members : List (String × Json)} {fields : List (String × Descriptor)}
    (hnode : Node v "object" (.object members) null) (hfields : Fields Records members fields) :
    Records v (.object fields)
  | map {v inner : Json} {element : Descriptor} (hnode : Node v "map" null inner)
    (helement : Records inner element) : Records v (.map (some element))
  | list {v inner : Json} {element : Descriptor} (hnode : Node v "list" null inner)
    (helement : Records inner element) : Records v (.list (some element))

theorem Records.ne_null {v : Json} {t : Descriptor} (h : Records v t) : v ≠ null := by
  rintro rfl
  cases h with
  | childless _ hnode | object hnode _ | map hnode _ | list hnode _ => exact hnode.form

/-- The names that a node may have. -/
def typeNames : List String :=
  ["string", "number", "bool", "object", "map", "list", "dynamic", "invalid"]

theorem typeName_mem (t : Descriptor) : t.typeName ∈ typeNames := by
  cases t with
  | primitive kind => cases kind <;> simp [typeName, typeNames, Primitive.name]
  | object | map | list | dynamic | invalid => simp [typeName, typeNames]

/-- Each of the names is that of a node without children. -/
theorem mem_typeNames {name : String} :
    name ∈ typeNames ↔ ∃ t : Descriptor, t.children = [] ∧ t.typeName = name := by
  constructor
  · intro h
    simp only [typeNames, List.mem_cons, List.not_mem_nil, or_false] at h
    rcases h with rfl | rfl | rfl | rfl | rfl | rfl | rfl | rfl
    · exact ⟨primitive .string, rfl, rfl⟩
    · exact ⟨primitive .number, rfl, rfl⟩
    · exact ⟨primitive .bool, rfl, rfl⟩
    · exact ⟨object [], rfl, rfl⟩
    · exact ⟨map none, rfl, rfl⟩
    · exact ⟨list none, rfl, rfl⟩
    · exact ⟨dynamic, rfl, rfl⟩
    · exact ⟨invalid, rfl, rfl⟩
  · rintro ⟨t, -, rfl⟩
    exact t.typeName_mem

/-- The record's fields are read from what it gives each of them. -/
theorem recordFields_read_eq_ok {child : Reader Descriptor} {v : Json} (hv : v.Ordered)
    {r : Record} :
    (recordFields child).read "WireType" false v = .ok r ↔
      ∃ nested inner, Node v r.typeName nested inner
        ∧ readOption (readDict child) nested = .ok r.nestedValues
        ∧ readOption child inner = .ok r.internalType := by
  have hmake : ∀ absent, v.IsRecord 3 → (recordFields child).make? absent v
      = (given readString none (v.field? 0 "type_name")).bind fun name =>
          (readOption (readDict child) (orNull (v.field? 1 "nested_values"))).toOption.bind
            fun nested => (readOption child (orNull (v.field? 2 "internal_type"))).toOption.map
              fun inner => ⟨name, nested, inner⟩ := by
    intro absent hform
    unfold recordFields Fields.field Fields.optional
    rw [make?_andField (by simp) _ _ absent hv, make?_andField (by simp) _ _ absent hv,
      make?_andField (by simp) _ _ absent hv, make?_pure _ absent hform, given_readOption,
      given_readOption]
    simp only [names_andField, names_pure, List.nil_append, List.cons_append, List.length_nil,
      List.length_cons, Option.bind_some]
    cases given readString none (v.field? 0 "type_name") with
    | none => rfl
    | some name =>
        cases (readOption (readDict child) (orNull (v.field? 1 "nested_values"))).toOption with
        | none => rfl
        | some nested => rfl
  rw [Fields.read_eq_ok]
  constructor
  · rintro ⟨hform, hr⟩
    rw [hmake _ hform] at hr
    simp only [Option.bind_eq_some_iff, Option.map_eq_some_iff, given_readString] at hr
    obtain ⟨name, hname, nested, hnested, inner, hinner, rfl⟩ := hr
    exact ⟨_, _, ⟨hform, hname, rfl, rfl⟩, eq_ok_of_toOption hnested, eq_ok_of_toOption hinner⟩
  · rintro ⟨_, _, ⟨hform, hname, rfl, rfl⟩, hnested, hinner⟩
    refine ⟨hform, ?_⟩
    rw [hmake _ hform, given_readString.2 hname, hnested, hinner]
    rfl

/-- The nodes without children. -/
theorem childless_cases {t : Descriptor} (h : t.children = []) :
    (∃ kind, t = primitive kind) ∨ t = object [] ∨ t = map none ∨ t = list none ∨ t = dynamic
      ∨ t = invalid := by
  cases t with
  | primitive kind => exact .inl ⟨kind, rfl⟩
  | object fields => simp [List.map_eq_nil_iff.1 h]
  | map element => cases element with
    | none => simp
    | some u => cases h
  | list element => cases element with
    | none => simp
    | some u => cases h
  | dynamic | invalid => simp

/-- A record with a name alone stands for the node of that name without children. -/
theorem Record.toDescriptor_childless {t : Descriptor} (h : t.children = []) :
    Record.toDescriptor ⟨t.typeName, none, none⟩ = .ok t := by
  rcases childless_cases h with ⟨kind, rfl⟩ | rfl | rfl | rfl | rfl | rfl
  · cases kind <;> rfl
  all_goals rfl

/-- The records that stand for a descriptor: those of nodes that may have what is given. -/
theorem Record.toDescriptor_eq_ok {r : Record} {t : Descriptor} :
    r.toDescriptor = .ok t ↔
      t.children = [] ∧ r = ⟨t.typeName, none, none⟩
      ∨ (∃ fields, t = .object fields ∧ r = ⟨"object", some fields, none⟩)
      ∨ (∃ element, t = .map (some element) ∧ r = ⟨"map", none, some element⟩)
      ∨ ∃ element, t = .list (some element) ∧ r = ⟨"list", none, some element⟩ := by
  obtain ⟨name, nested, inner⟩ := r
  constructor
  · intro h
    unfold toDescriptor at h
    split at h
    · cases h
    next hnested =>
    split at h
    · cases h
    next hinner =>
    simp only [not_and, Option.not_isSome_iff_eq_none] at hnested hinner
    split at h
    next kind hkind =>
      cases h
      rw [ofName?_eq_some] at hkind
      subst hkind
      rw [hnested (by cases kind <;> decide),
        hinner (by cases kind <;> decide) (by cases kind <;> decide)]
      exact .inl ⟨rfl, rfl⟩
    next =>
    split at h
    next hname =>
      subst hname
      cases h
      rw [hinner (by decide) (by decide)]
      cases nested with
      | none => exact .inl ⟨rfl, rfl⟩
      | some fields => exact .inr (.inl ⟨fields, rfl, rfl⟩)
    next hname =>
    rw [hnested hname]
    split at h
    next hname =>
      subst hname
      cases h
      cases inner with
      | none => exact .inl ⟨rfl, rfl⟩
      | some element => exact .inr (.inr (.inl ⟨element, rfl, rfl⟩))
    next hmap =>
    split at h
    next hname =>
      subst hname
      cases h
      cases inner with
      | none => exact .inl ⟨rfl, rfl⟩
      | some element => exact .inr (.inr (.inr ⟨element, rfl, rfl⟩))
    next hlist =>
    rw [hinner hmap hlist]
    split at h
    next hname => subst hname; cases h; exact .inl ⟨rfl, rfl⟩
    next =>
    split at h
    next hname => subst hname; cases h; exact .inl ⟨rfl, rfl⟩
    next => cases h
  · rintro (⟨hchildren, heq⟩ | ⟨fields, rfl, heq⟩ | ⟨element, rfl, heq⟩ | ⟨element, rfl, heq⟩)
    · cases heq
      exact toDescriptor_childless hchildren
    · cases heq
      rfl
    · cases heq
      rfl
    · cases heq
      rfl

-- ============================================================== fields

section Fields

variable {R : Json → Descriptor → Prop}

/-- The members of a table are read one by one. -/
theorem readMembers_eq_ok {child : Reader Descriptor} {members : List (String × Json)}
    (h : ∀ e ∈ members, ∀ t, child e.2 = .ok t ↔ R e.2 t) :
    ∀ {fields}, readMembers child members = .ok fields ↔ Fields R members fields := by
  induction members with
  | nil =>
      intro fields
      rw [readMembers, fields_nil, Except.ok.injEq, eq_comm]
  | cons e members ih =>
      intro fields
      obtain ⟨hfirst, hrest⟩ := List.forall_mem_cons.1 h
      exact read_cons_eq_ok hfirst fun _ => ih hrest

/-- The fields have the names of the members, in their order. -/
theorem Fields.keys_eq {members : List (String × Json)} {fields : List (String × Descriptor)}
    (h : Fields R members fields) : Dict.keys fields = Dict.keys members := by
  induction h with
  | nil => rfl
  | cons name _ _ ih => exact congrArg (name :: ·) ih

/-- Every field is described by a member. -/
theorem Fields.of_mem {members : List (String × Json)} {fields : List (String × Descriptor)}
    (h : Fields R members fields) : ∀ f ∈ fields, ∃ e ∈ members, R e.2 f.2 := by
  induction h with
  | nil => nofun
  | cons name first _ ih =>
      refine List.forall_mem_cons.2 ⟨⟨_, List.mem_cons_self .., first⟩, fun f hf => ?_⟩
      obtain ⟨e, he, hR⟩ := ih f hf
      exact ⟨e, List.mem_cons_of_mem _ he, hR⟩

/-- Members describe fields if each of them describes one. -/
theorem exists_fields {members : List (String × Json)} :
    (∃ fields, Fields R members fields) ↔ ∀ e ∈ members, ∃ t, R e.2 t := by
  induction members with
  | nil => exact iff_of_true ⟨[], .nil⟩ fun _ he => absurd he List.not_mem_nil
  | cons e members ih =>
      obtain ⟨name, v⟩ := e
      rw [List.forall_mem_cons, ← ih]
      simp only [fields_cons]
      constructor
      · rintro ⟨_, t, rest, ht, hrest, -⟩
        exact ⟨⟨t, ht⟩, rest, hrest⟩
      · rintro ⟨⟨t, ht⟩, rest, hrest⟩
        exact ⟨_, t, rest, ht, hrest, rfl⟩

end Fields

-- ================================================================ nodes

/-- A node is read as what it stands for, if what stands inside it is. -/
theorem readNode_eq_ok {child : Reader Descriptor} {v : Json} (hv : v.Ordered)
    (hchild : ∀ w : Json, w.Ordered → w.depth < v.depth → ∀ t, child w = .ok t ↔ Records w t)
    {t : Descriptor} : readNode child v = .ok t ↔ Records v t := by
  have hread : readNode child v = .ok t ↔
      ∃ r, (recordFields child).read "WireType" false v = .ok r ∧ r.toDescriptor = .ok t := by
    unfold readNode
    rw [bind_eq_ok]
    refine exists_congr fun r => and_congr_right fun _ => ?_
    cases r.toDescriptor <;> simp
  have hinner : ∀ {name nested inner}, Node v name nested inner → inner ≠ null →
      ∀ u, child inner = .ok u ↔ Records inner u := fun hnode hne =>
    let ⟨hw, hdepth⟩ := inside_of_field? hv hnode.internalType hne
    hchild _ hw hdepth
  have hmembers : ∀ {name inner members}, Node v name (.object members) inner →
      ∀ fields, readMembers child members = .ok fields ↔ Fields Records members fields := by
    intro name inner members hnode fields
    obtain ⟨hw, hdepth⟩ := inside_of_field? hv hnode.nestedValues nofun
    rw [Json.Ordered] at hw
    exact readMembers_eq_ok fun e he => hchild _ (orderedMembers_iff.1 hw.2 e he)
      (Nat.lt_trans (depth_lt_of_mem he) hdepth)
  rw [hread]
  constructor
  · rintro ⟨r, hr, ht⟩
    obtain ⟨nested, inner, hnode, hnestedRead, hinnerRead⟩ := (recordFields_read_eq_ok hv).1 hr
    rcases Record.toDescriptor_eq_ok.1 ht with
      ⟨hchildren, rfl⟩ | ⟨fields, rfl, rfl⟩ | ⟨element, rfl, rfl⟩ | ⟨element, rfl, rfl⟩
    · cases readOption_eq_none.1 hnestedRead
      cases readOption_eq_none.1 hinnerRead
      exact .childless hchildren hnode
    · obtain ⟨-, hdict⟩ := readOption_eq_some.1 hnestedRead
      obtain ⟨members, rfl, hfields⟩ := readDict_eq_ok.1 hdict
      cases readOption_eq_none.1 hinnerRead
      exact .object hnode ((hmembers hnode _).1 hfields)
    · cases readOption_eq_none.1 hnestedRead
      obtain ⟨hne, helement⟩ := readOption_eq_some.1 hinnerRead
      exact .map hnode ((hinner hnode hne _).1 helement)
    · cases readOption_eq_none.1 hnestedRead
      obtain ⟨hne, helement⟩ := readOption_eq_some.1 hinnerRead
      exact .list hnode ((hinner hnode hne _).1 helement)
  · intro h
    cases h with
    | childless hchildren hnode =>
        exact ⟨⟨t.typeName, none, none⟩, (recordFields_read_eq_ok hv).2
          ⟨_, _, hnode, readOption_eq_none.2 rfl, readOption_eq_none.2 rfl⟩,
          Record.toDescriptor_eq_ok.2 (.inl ⟨hchildren, rfl⟩)⟩
    | object hnode hfields =>
        have hdict := readDict_eq_ok.2 ⟨_, rfl, (hmembers hnode _).2 hfields⟩
        exact ⟨⟨"object", some _, none⟩, (recordFields_read_eq_ok hv).2
          ⟨_, _, hnode, readOption_eq_some.2 ⟨nofun, hdict⟩, readOption_eq_none.2 rfl⟩, rfl⟩
    | map hnode helement =>
        have hne := helement.ne_null
        exact ⟨⟨"map", none, some _⟩, (recordFields_read_eq_ok hv).2
          ⟨_, _, hnode, readOption_eq_none.2 rfl,
            readOption_eq_some.2 ⟨hne, (hinner hnode hne _).2 helement⟩⟩, rfl⟩
    | list hnode helement =>
        have hne := helement.ne_null
        exact ⟨⟨"list", none, some _⟩, (recordFields_read_eq_ok hv).2
          ⟨_, _, hnode, readOption_eq_none.2 rfl,
            readOption_eq_some.2 ⟨hne, (hinner hnode hne _).2 helement⟩⟩, rfl⟩

/-- As many levels as the value has are enough. -/
theorem readWithin_eq_ok (levels : Nat) : ∀ {v : Json}, v.Ordered → v.depth < levels →
    ∀ t, readWithin levels v = .ok t ↔ Records v t := by
  induction levels with
  | zero => exact fun _ hd => absurd hd (Nat.not_lt_zero _)
  | succ levels ih =>
      intro v hv hd t
      refine readNode_eq_ok hv fun w hw hlt => ih hw ?_
      exact Nat.lt_of_lt_of_le hlt (Nat.le_of_lt_succ hd)

/-- A value is read as what it stands for. -/
theorem read_eq_ok {v : Json} (hv : v.Ordered) {t : Descriptor} :
    read v = .ok t ↔ Records v t :=
  readWithin_eq_ok _ hv (Nat.lt_succ_self _) t

-- ============================================================= ordered

/-- What an ordered value stands for is ordered: its fields have the names of members. -/
theorem Records.ordered {v : Json} {t : Descriptor} (h : Records v t) (hv : v.Ordered) :
    t.Ordered := by
  induction hdepth : v.depth using Nat.strongRecOn generalizing v t with
  | ind depth ih =>
  subst hdepth
  have hinner : ∀ {name nested inner u}, Node v name nested inner → Records inner u →
      u.Ordered := fun hnode hu =>
    let ⟨hw, hlt⟩ := inside_of_field? hv hnode.internalType hu.ne_null
    ih _ hlt hu hw rfl
  cases h with
  | childless hchildren _ =>
      rcases childless_cases hchildren with ⟨kind, rfl⟩ | rfl | rfl | rfl | rfl | rfl
      · trivial
      · exact ⟨.nil, trivial⟩
      all_goals trivial
  | @object _ members fields hnode hfields =>
      obtain ⟨hw, hlt⟩ := inside_of_field? hv hnode.nestedValues nofun
      rw [Json.Ordered] at hw
      have hsorted : Dict.Sorted fields := by
        rw [Dict.sorted_iff_keys, hfields.keys_eq, ← Dict.sorted_iff_keys]
        exact hw.1
      refine ⟨hsorted, orderedFields_iff.2 fun f hf => ?_⟩
      obtain ⟨e, he, hu⟩ := hfields.of_mem f hf
      exact ih _ (Nat.lt_trans (depth_lt_of_mem he) hlt) hu (orderedMembers_iff.1 hw.2 e he) rfl
  | map hnode helement | list hnode helement =>
      rw [Ordered]
      exact hinner hnode helement

-- ======================================================== record forms

/-- A value that is read as a descriptor. -/
def Readable (v : Json) : Prop := ∃ t, read v = .ok t

/-- One level of what is read: the names there are, and what a node of each may hold. -/
theorem readable_iff {v : Json} (hv : v.Ordered) :
    Readable v ↔ ∃ name nested inner, Node v name nested inner ∧ name ∈ typeNames
      ∧ (nested = null
        ∨ name = "object" ∧ ∃ members, nested = .object members ∧ ∀ e ∈ members, Readable e.2)
      ∧ (inner = null ∨ (name = "map" ∨ name = "list") ∧ Readable inner) := by
  have hinner : ∀ {name nested inner}, Node v name nested inner → inner ≠ null →
      (Readable inner ↔ ∃ u, Records inner u) := fun hnode hne =>
    let ⟨hw, _⟩ := inside_of_field? hv hnode.internalType hne
    exists_congr fun _ => read_eq_ok hw
  have hmembers : ∀ {name inner members}, Node v name (.object members) inner →
      ((∀ e ∈ members, Readable e.2) ↔ ∃ fields, Fields Records members fields) := by
    intro name inner members hnode
    obtain ⟨hw, -⟩ := inside_of_field? hv hnode.nestedValues nofun
    rw [Json.Ordered] at hw
    rw [exists_fields]
    exact forall₂_congr fun e he => exists_congr fun _ =>
      read_eq_ok (orderedMembers_iff.1 hw.2 e he)
  constructor
  · rintro ⟨t, ht⟩
    cases (read_eq_ok hv).1 ht with
    | childless _ hnode => exact ⟨_, _, _, hnode, t.typeName_mem, .inl rfl, .inl rfl⟩
    | object hnode hfields =>
        exact ⟨_, _, _, hnode, typeName_mem (.object []),
          .inr ⟨rfl, _, rfl, (hmembers hnode).2 ⟨_, hfields⟩⟩, .inl rfl⟩
    | map hnode helement =>
        exact ⟨_, _, _, hnode, typeName_mem (.map none), .inl rfl,
          .inr ⟨.inl rfl, (hinner hnode helement.ne_null).2 ⟨_, helement⟩⟩⟩
    | list hnode helement =>
        exact ⟨_, _, _, hnode, typeName_mem (.list none), .inl rfl,
          .inr ⟨.inr rfl, (hinner hnode helement.ne_null).2 ⟨_, helement⟩⟩⟩
  · rintro ⟨name, nested, inner, hnode, hname, hnested, hinternal⟩
    simp only [Readable, read_eq_ok hv]
    by_cases hnull : inner = null
    · subst hnull
      rcases hnested with rfl | ⟨rfl, members, rfl, hreadable⟩
      · obtain ⟨t, hchildren, rfl⟩ := mem_typeNames.1 hname
        exact ⟨t, .childless hchildren hnode⟩
      · obtain ⟨fields, hfields⟩ := (hmembers hnode).1 hreadable
        exact ⟨_, .object hnode hfields⟩
    · -- only a map or list is left, and it has no fields
      obtain ⟨hnamed, hreadable⟩ := hinternal.resolve_left hnull
      have hbare : nested = null := by
        refine hnested.resolve_right ?_
        rintro ⟨rfl, -⟩
        revert hnamed
        decide
      subst hbare
      obtain ⟨u, hu⟩ := (hinner hnode hnull).1 hreadable
      rcases hnamed with rfl | rfl
      · exact ⟨_, .map hnode hu⟩
      · exact ⟨_, .list hnode hu⟩

/-- A descriptor and a schema read back from their records, whatever stands in them. A value is
read if it is a record with one of the eight names and, of what may be left out, only what a
node of that name has: an object its fields, each of which is read, and a map or list its
element, which is read. What is read, once written again, reads as the same descriptor. -/
theorem read_record_forms {t : Descriptor} {s : ObjectSchema} {v : Json} (ht : t.Ordered)
    (hs : s.Ordered) (hv : v.Ordered) :
    read t.toJson.canonical = .ok t
      ∧ ObjectSchema.read s.toJson.canonical = .ok s
      ∧ (∀ u, read v = .ok u ↔ Records v u)
      ∧ (Readable v ↔ ∃ name nested inner, Node v name nested inner ∧ name ∈ typeNames
        ∧ (nested = null
          ∨ name = "object" ∧ ∃ members, nested = .object members ∧ ∀ e ∈ members, Readable e.2)
        ∧ (inner = null ∨ (name = "map" ∨ name = "list") ∧ Readable inner))
      ∧ ∀ u, read v = .ok u → read u.toJson.canonical = .ok u :=
  ⟨read_canonical ht, ObjectSchema.read_canonical hs, fun _ => read_eq_ok hv, readable_iff hv,
    fun _ hu => read_canonical (((read_eq_ok hv).1 hu).ordered hv)⟩

/-- A map listed in place of its members, over a type that could not be made out. -/
def listedMap : Json :=
  .array [.string "map", .null, .object [("type_name", .string "invalid")]]

/-- A schema of one attribute, in a block. -/
def nestedSchema : ObjectSchema where
  attributes := []
  blocks := [("retry", ⟨"retry", ⟨[("times", ⟨"times", .list none, true⟩)], []⟩, false⟩)]

theorem read_record_forms_listed :
    (Descriptor.object [("at", .map none), ("by", .dynamic)]).Ordered ∧ nestedSchema.Ordered
      ∧ listedMap.Ordered
      ∧ read (Descriptor.object [("at", .map none), ("by", .dynamic)]).toJson.canonical
          = .ok (.object [("at", .map none), ("by", .dynamic)])
      ∧ ObjectSchema.read nestedSchema.toJson.canonical = .ok nestedSchema
      ∧ read listedMap = .ok (.map (some .invalid)) := by
  have htype : (Descriptor.object [("at", .map none), ("by", .dynamic)]).Ordered := by decide
  have hschema : nestedSchema.Ordered := by decide
  have hordered : listedMap.Ordered := by decide
  obtain ⟨hread, hreadSchema, hrecords, -⟩ := read_record_forms htype hschema hordered
  have hmap : Node listedMap "map" null (.object [("type_name", .string "invalid")]) :=
    ⟨Nat.le_refl 3, rfl, rfl, rfl⟩
  have hinvalid : Node (.object [("type_name", .string "invalid")]) "invalid" null null :=
    ⟨trivial, rfl, rfl, rfl⟩
  exact ⟨htype, hschema, hordered, hread, hreadSchema,
    (hrecords _).2 (.map hmap (.childless rfl hinvalid))⟩

end ProviderLink.Descriptor
