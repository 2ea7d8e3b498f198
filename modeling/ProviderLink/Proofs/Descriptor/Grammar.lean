/-
The two grammars of types described as data, as relations, and the
reader held to them: what it reads is what they derive, and nothing else
is read (`decode_iff_describes`).

The grammars are said in terms of members alone. A leaf and a key/value
map are told apart by looking one level down, and no value is both
(`KeyValue.notLeaf`), so whether the first grammar has a say is decided
before anything is derived; only if it has none does the second.

The reader walks the members of a node to find the one that it needs,
because that is a recursion on the value. The lemmas of each node say
that this finds what a lookup finds, and reads it; those of lists say
that members are read one by one (`Fields`), whichever grammar reads
them. Both inductions are on the value.
-/
import ProviderLink.Descriptor.SelfDescribed
import ProviderLink.Proofs.Dict
import ProviderLink.Proofs.Outcome

namespace ProviderLink

mutual

/-- What holds of an object if it holds of what its members hold, and of all that is no object,
holds of every value. -/
@[elab_as_elim]
theorem Json.members_induction {motive : Json → Prop}
    (object : ∀ members : List (String × Json), (∀ e ∈ members, motive e.2) →
      motive (.object members))
    (other : ∀ v, (∀ members, v ≠ .object members) → motive v) : (v : Json) → motive v
  | .object members => object members (Json.members_induction_members object other members)
  | .null | .bool _ | .number _ | .string _ | .array _ => other _ nofun

theorem Json.members_induction_members {motive : Json → Prop}
    (object : ∀ members : List (String × Json), (∀ e ∈ members, motive e.2) →
      motive (.object members))
    (other : ∀ v, (∀ members, v ≠ .object members) → motive v) :
    (members : List (String × Json)) → ∀ e ∈ members, motive e.2
  | [] => nofun
  | (_, v) :: rest =>
    List.forall_mem_cons.2
      ⟨Json.members_induction object other v, Json.members_induction_members object other rest⟩

end

namespace Descriptor

-- ============================================================ grammars

/-- Members of a leaf of a type: a string `type` that names it, and a `required` of any kind. -/
structure Leaf (members : List (String × Json)) (type : String) : Prop where
  type : Dict.get? "type" members = some (.string type)
  required : Dict.has "required" members

/-- The value is a leaf of some type. -/
def IsLeaf (v : Json) : Prop := ∃ members type, v = .object members ∧ Leaf members type

/-- Members of a key/value map: together no leaf, but each of them one. -/
structure KeyValue (members : List (String × Json)) : Prop where
  notLeaf : ¬IsLeaf (.object members)
  leaves : ∀ e ∈ members, IsLeaf e.2

/-- The value is a key/value map. -/
def IsKeyValue (v : Json) : Prop := ∃ members, v = .object members ∧ KeyValue members

/-- Members that describe fields: each the field of its name, in the order in which they stand. -/
inductive Fields (R : Json → Descriptor → Prop) :
    List (String × Json) → List (String × Descriptor) → Prop
  | nil : Fields R [] []
  | cons (name : String) {v : Json} {type : Descriptor} {members : List (String × Json)}
    {fields : List (String × Descriptor)} (first : R v type) (rest : Fields R members fields) :
    Fields R ((name, v) :: members) ((name, type) :: fields)

/-- The constraint grammar. A primitive leaf may have any `children`, or none. -/
inductive Constrains : Json → Descriptor → Prop
  | keyValue {members : List (String × Json)} {fields : List (String × Descriptor)}
    (hshape : KeyValue members) (hfields : Fields Constrains members fields) :
    Constrains (.object members) (.object fields)
  | primitive (kind : Primitive) {members : List (String × Json)}
    (hleaf : Leaf members kind.name) : Constrains (.object members) (.primitive kind)
  | list {members : List (String × Json)} {children : Json} {element : Descriptor}
    (hleaf : Leaf members "list") (hchildren : Dict.get? "children" members = some children)
    (helement : Constrains children element) :
    Constrains (.object members) (.list (some element))
  | object {members children : List (String × Json)} {fields : List (String × Descriptor)}
    (hleaf : Leaf members "object")
    (hchildren : Dict.get? "children" members = some (.object children))
    (hshape : KeyValue children) (hfields : Fields Constrains children fields) :
    Constrains (.object members) (.object fields)

/-- The members of a node of the marker grammar, by the type that it names. -/
def Marked (members : List (String × Json)) (type : String) : Prop :=
  Dict.get? "type_name" members = some (.string type)

/-- The marker grammar. -/
inductive Marks : Json → Descriptor → Prop
  | primitive (kind : Primitive) {members : List (String × Json)}
    (htype : Marked members kind.name) : Marks (.object members) (.primitive kind)
  | dynamic {members : List (String × Json)} (htype : Marked members "dynamic") :
    Marks (.object members) .dynamic
  | object {members nested : List (String × Json)} {fields : List (String × Descriptor)}
    (htype : Marked members "object")
    (hnested : Dict.get? "nested_values" members = some (.object nested))
    (hfields : Fields Marks nested fields) : Marks (.object members) (.object fields)
  | map {members inner : List (String × Json)} {element : Descriptor}
    (htype : Marked members "map")
    (hinner : Dict.get? "internal_type" members = some (.object inner))
    (helement : Marks (.object inner) element) : Marks (.object members) (.map (some element))
  | list {members inner : List (String × Json)} {element : Descriptor}
    (htype : Marked members "list")
    (hinner : Dict.get? "internal_type" members = some (.object inner))
    (helement : Marks (.object inner) element) : Marks (.object members) (.list (some element))

/-- The value describes the type. The constraint grammar is the one for every value of its two
shapes, even one that carries markers as well; the marker grammar, whose root is an `object`, is
for the others. -/
inductive Describes (v : Json) (t : Descriptor) : Prop
  | constraint (shape : IsLeaf v ∨ IsKeyValue v) (derived : Constrains v t)
  | marker (shape : ¬(IsLeaf v ∨ IsKeyValue v)) (root : v.text? "type_name" = some "object")
    (derived : Marks v t)

-- ============================================================== shapes

theorem leaf_of_object {members : List (String × Json)} :
    IsLeaf (.object members) ↔ ∃ type, Leaf members type :=
  ⟨fun ⟨_, type, heq, h⟩ => ⟨type, Json.object.inj heq ▸ h⟩, fun ⟨type, h⟩ => ⟨_, type, rfl, h⟩⟩

theorem keyValue_of_object {members : List (String × Json)} :
    IsKeyValue (.object members) ↔ KeyValue members :=
  ⟨fun ⟨_, heq, h⟩ => Json.object.inj heq ▸ h, fun h => ⟨_, rfl, h⟩⟩

/-- The type of a leaf, as it is looked up. -/
theorem leaf_iff {members : List (String × Json)} {type : String} :
    Leaf members type ↔
      (Dict.get? "type" members).bind Json.string? = some type ∧ Dict.has "required" members := by
  have hstring : (Dict.get? "type" members).bind Json.string? = some type
      ↔ Dict.get? "type" members = some (.string type) := by
    cases Dict.get? "type" members with
    | none => exact iff_of_false nofun nofun
    | some v => cases v <;> simp [Json.string?]
  rw [hstring]
  exact ⟨fun h => ⟨h.type, h.required⟩, fun h => ⟨h.1, h.2⟩⟩

theorem isConstraint_iff {v : Json} : isConstraint v = true ↔ IsLeaf v := by
  cases v with
  | object members =>
      simp only [isConstraint, leaf_of_object, Bool.and_eq_true, Option.isSome_iff_exists,
        leaf_iff, exists_and_right]
  | _ =>
      refine iff_of_false Bool.false_ne_true ?_
      rintro ⟨_, _, heq, _⟩
      cases heq

theorem isKeyValue_iff {v : Json} : isKeyValue v = true ↔ IsKeyValue v := by
  cases v with
  | object members =>
      rw [keyValue_of_object, isKeyValue, Bool.and_eq_true, Bool.not_eq_true',
        ← Bool.not_eq_true, isConstraint_iff, List.all_eq_true]
      simp only [isConstraint_iff]
      exact ⟨fun h => ⟨h.1, h.2⟩, fun h => ⟨h.notLeaf, h.leaves⟩⟩
  | _ => exact iff_of_false nofun fun ⟨_, heq, _⟩ => nomatch heq

theorem isFormat_iff {v : Json} : isFormat v = true ↔ IsLeaf v ∨ IsKeyValue v := by
  rw [isFormat, Bool.or_eq_true, isConstraint_iff, isKeyValue_iff]

/-- Leaves of two types are different values. -/
theorem Leaf.unique {members : List (String × Json)} {type type' : String}
    (h : Leaf members type) (h' : Leaf members type') : type = type' :=
  Json.string.inj (Option.some.inj (h.type.symm.trans h'.type))

/-- No key/value map is a leaf. -/
theorem KeyValue.not_leaf {members : List (String × Json)} {type : String}
    (h : KeyValue members) : ¬Leaf members type :=
  fun hleaf => h.notLeaf (leaf_of_object.2 ⟨type, hleaf⟩)

-- ============================================================== fields

variable {R : Json → Descriptor → Prop}

theorem fields_nil {fields : List (String × Descriptor)} : Fields R [] fields ↔ fields = [] :=
  ⟨fun h => by cases h; rfl, fun h => h ▸ .nil⟩

theorem fields_cons {name : String} {v : Json} {members : List (String × Json)}
    {fields : List (String × Descriptor)} :
    Fields R ((name, v) :: members) fields ↔
      ∃ type rest, R v type ∧ Fields R members rest ∧ fields = (name, type) :: rest := by
  constructor
  · intro h
    cases h with
    | cons name first rest => exact ⟨_, _, first, rest, rfl⟩
  · rintro ⟨type, rest, first, hrest, rfl⟩
    exact .cons name first hrest

/-- Members are read one by one, whatever is said of those that are not read. -/
theorem read_cons_eq_ok {ε : Type} {name : String} {v : Json} {members : List (String × Json)}
    {fields : List (String × Descriptor)} {first : Except ε Descriptor}
    {rest : Except ε (List (String × Descriptor))}
    (hfirst : ∀ t, first = .ok t ↔ R v t) (hrest : ∀ fs, rest = .ok fs ↔ Fields R members fs) :
    (do return (name, ← first) :: (← rest)) = Except.ok (ε := ε) fields
      ↔ Fields R ((name, v) :: members) fields := by
  simp only [bind_eq_ok, hfirst, hrest, fields_cons]
  constructor
  · rintro ⟨t, ht, fs, hfs, heq⟩
    cases heq
    exact ⟨t, fs, ht, hfs, rfl⟩
  · rintro ⟨t, fs, ht, hfs, rfl⟩
    exact ⟨t, ht, fs, hfs, rfl⟩

-- ============================================== constraint grammar

theorem ofName?_eq_some {s : String} {kind : Primitive} :
    Primitive.ofName? s = some kind ↔ s = kind.name := by
  refine ⟨fun h => ?_, fun h => h ▸ kind.ofName?_name⟩
  unfold Primitive.ofName? at h
  split at h
  · next hs => cases h; exact hs
  · split at h
    · next hs => cases h; exact hs
    · split at h
      · next hs => cases h; exact hs
      · cases h

theorem name_inj {kind kind' : Primitive} : kind.name = kind'.name ↔ kind = kind' :=
  ⟨fun h => Option.some.inj ((ofName?_eq_some.2 rfl).symm.trans (ofName?_eq_some.2 h)),
    fun h => h ▸ rfl⟩

/-- What has no primitive's name derives no primitive. -/
theorem not_primitive_of_ofName? {type : String} (h : Primitive.ofName? type = none)
    {t : Descriptor} : ¬∃ kind, type = Primitive.name kind ∧ t = primitive kind :=
  fun ⟨_, hname, _⟩ => nomatch h.symm.trans (ofName?_eq_some.2 hname)

theorem ofMembers_eq_ok {members : List (String × Json)}
    (h : ∀ e ∈ members, ∀ path t, ofFormat path e.2 = .ok t ↔ Constrains e.2 t) {path : Path} :
    ∀ {fields}, ofMembers path members = .ok fields ↔ Fields Constrains members fields := by
  induction members with
  | nil =>
      intro fields
      rw [ofMembers, fields_nil, Except.ok.injEq, eq_comm]
  | cons e members ih =>
      intro fields
      obtain ⟨hfirst, hrest⟩ := List.forall_mem_cons.1 h
      exact read_cons_eq_ok (hfirst _) fun _ => ih hrest

theorem ofListChildren_eq_ok {members : List (String × Json)}
    (h : ∀ e ∈ members, ∀ path t, ofFormat path e.2 = .ok t ↔ Constrains e.2 t) {path : Path}
    {t : Descriptor} :
    ofListChildren path members = .ok t ↔ ∃ children, Dict.get? "children" members = some children
      ∧ ∃ element, Constrains children element ∧ t = list (some element) := by
  induction members with
  | nil => exact iff_of_false nofun fun ⟨_, h, _⟩ => nomatch h
  | cons e members ih =>
      obtain ⟨name, v⟩ := e
      obtain ⟨hfirst, hrest⟩ := List.forall_mem_cons.1 h
      rw [ofListChildren, Dict.get?_cons]
      by_cases hname : name = "children"
      · rw [if_pos hname, if_pos hname.symm]
        simp only [map_eq_ok, hfirst, Option.some.injEq, exists_eq_left']
      · rw [if_neg hname, if_neg (Ne.symm hname)]
        exact ih hrest

theorem ofObjectChildren_eq_ok {members : List (String × Json)}
    (h : ∀ e ∈ members, ∀ path t, ofFormat path e.2 = .ok t ↔ Constrains e.2 t) {path : Path}
    {t : Descriptor} :
    ofObjectChildren path members = .ok t ↔
      ∃ children, Dict.get? "children" members = some children ∧ IsKeyValue children
        ∧ Constrains children t := by
  induction members with
  | nil => exact iff_of_false nofun fun ⟨_, h, _⟩ => nomatch h
  | cons e members ih =>
      obtain ⟨name, v⟩ := e
      obtain ⟨hfirst, hrest⟩ := List.forall_mem_cons.1 h
      rw [ofObjectChildren, Dict.get?_cons]
      by_cases hname : name = "children"
      · rw [if_pos hname, if_pos hname.symm]
        simp only [Option.some.injEq, exists_eq_left', ← isKeyValue_iff]
        split
        case isTrue hshape => rw [hfirst, and_iff_right hshape]
        case isFalse hshape => exact iff_of_false nofun fun h => hshape h.1
      · rw [if_neg hname, if_neg (Ne.symm hname)]
        exact ih hrest

/-- What a key/value map derives. -/
theorem constrains_keyValue {members : List (String × Json)} (h : KeyValue members)
    {t : Descriptor} :
    Constrains (.object members) t ↔
      ∃ fields, Fields Constrains members fields ∧ t = object fields := by
  constructor
  · intro ht
    cases ht with
    | keyValue _ hfields => exact ⟨_, hfields, rfl⟩
    | primitive _ hleaf | list hleaf | object hleaf => exact absurd hleaf h.not_leaf
  · rintro ⟨fields, hfields, rfl⟩
    exact .keyValue h hfields

/-- What a leaf derives goes by its type. -/
theorem constrains_leaf {members : List (String × Json)} {type : String}
    (h : Leaf members type) {t : Descriptor} :
    Constrains (.object members) t ↔
      (∃ kind, type = Primitive.name kind ∧ t = primitive kind)
      ∨ (type = "list" ∧ ∃ children, Dict.get? "children" members = some children
          ∧ ∃ element, Constrains children element ∧ t = list (some element))
      ∨ type = "object" ∧ ∃ children, Dict.get? "children" members = some children
          ∧ IsKeyValue children ∧ Constrains children t := by
  constructor
  · intro ht
    cases ht with
    | keyValue hshape => exact absurd h hshape.not_leaf
    | primitive kind hleaf => exact Or.inl ⟨kind, h.unique hleaf, rfl⟩
    | list hleaf hchildren helement =>
        exact Or.inr (Or.inl ⟨h.unique hleaf, _, hchildren, _, helement, rfl⟩)
    | object hleaf hchildren hshape hfields =>
        exact Or.inr (Or.inr ⟨h.unique hleaf, _, hchildren, ⟨_, rfl, hshape⟩,
          .keyValue hshape hfields⟩)
  · rintro (⟨kind, rfl, rfl⟩ | ⟨rfl, children, hchildren, element, helement, rfl⟩
      | ⟨rfl, _, hchildren, ⟨nested, rfl, hshape⟩, ht⟩)
    · exact .primitive kind h
    · exact .list h hchildren helement
    · obtain ⟨fields, hfields, rfl⟩ := (constrains_keyValue hshape).1 ht
      exact .object h hchildren hshape hfields

/-- A leaf is read by its type. -/
theorem ofFormat_leaf {members : List (String × Json)} {type : String}
    (h : Leaf members type) (path : Path) :
    ofFormat path (.object members)
      = match Primitive.ofName? type with
        | some kind => .ok (primitive kind)
        | none =>
          if type = "list" then ofListChildren path members
          else if type = "object" then ofObjectChildren path members
          else .error ⟨path, .unsupported type⟩ := by
  have hshape : ¬isKeyValue (.object members) = true := fun hshape =>
    (keyValue_of_object.1 (isKeyValue_iff.1 hshape)).not_leaf h
  obtain ⟨htype, hrequired⟩ := leaf_iff.1 h
  rw [ofFormat, if_neg hshape, htype]
  dsimp only
  rewrite [if_neg (by rw [hrequired]; exact Bool.false_ne_true)]
  rfl

/-- What has neither shape is not read. -/
theorem ofFormat_shapeless {members : List (String × Json)}
    (hmap : ¬KeyValue members) (hleaf : ¬∃ type, Leaf members type) (path : Path) :
    ofFormat path (.object members) = .error ⟨path, .noShape⟩ := by
  have hshape : ¬isKeyValue (.object members) = true := fun hshape =>
    hmap (keyValue_of_object.1 (isKeyValue_iff.1 hshape))
  rw [ofFormat, if_neg hshape]
  cases htype : (Dict.get? "type" members).bind Json.string? with
  | none => rfl
  | some type =>
      have hrequired : ¬Dict.has "required" members = true := fun hrequired =>
        hleaf ⟨type, leaf_iff.2 ⟨htype, hrequired⟩⟩
      dsimp only
      rw [if_pos (by simpa using hrequired)]

/-- A leaf is read as it derives, if the values of its members are. -/
theorem ofFormat_leaf_eq_ok {members : List (String × Json)} {type : String}
    (h : Leaf members type)
    (ih : ∀ e ∈ members, ∀ path t, ofFormat path e.2 = .ok t ↔ Constrains e.2 t)
    (path : Path) (t : Descriptor) :
    ofFormat path (.object members) = .ok t ↔ Constrains (.object members) t := by
  rw [ofFormat_leaf h, constrains_leaf h]
  cases hkind : Primitive.ofName? type with
  | some kind =>
      obtain rfl := ofName?_eq_some.1 hkind
      have hlist : kind.name ≠ "list" := by cases kind <;> decide
      have hobject : kind.name ≠ "object" := by cases kind <;> decide
      simp only [hlist, hobject, false_and, or_false, name_inj, exists_eq_left',
        Except.ok.injEq, eq_comm]
  | none =>
      rw [or_iff_right (not_primitive_of_ofName? hkind)]
      dsimp only
      by_cases hlist : type = "list"
      · subst hlist
        rw [if_pos rfl, ofListChildren_eq_ok ih]
        simp
      rw [if_neg hlist, or_iff_right fun h => hlist h.1]
      by_cases hobject : type = "object"
      · rw [if_pos hobject, ofObjectChildren_eq_ok ih, and_iff_right hobject]
      · rw [if_neg hobject]
        refine iff_of_false (fun h => ?_) fun h => hobject h.1
        cases h

/-- The reader of the constraint grammar reads what the grammar derives. -/
theorem ofFormat_eq_ok (v : Json) :
    ∀ path t, ofFormat path v = .ok t ↔ Constrains v t := by
  induction v using Json.members_induction with
  | object members ih =>
      intro path t
      by_cases hmap : KeyValue members
      · rw [ofFormat, if_pos (isKeyValue_iff.2 (keyValue_of_object.2 hmap)), map_eq_ok,
          constrains_keyValue hmap]
        simp only [ofMembers_eq_ok ih]
      by_cases hleaf : ∃ type, Leaf members type
      · obtain ⟨type, hleaf⟩ := hleaf
        exact ofFormat_leaf_eq_ok hleaf ih path t
      · rw [ofFormat_shapeless hmap hleaf]
        refine iff_of_false nofun fun ht => ?_
        cases ht with
        | keyValue hshape => exact hmap hshape
        | primitive _ h | list h | object h => exact hleaf ⟨_, h⟩
  | other v hv =>
      intro path t
      cases v with
      | object members => exact absurd rfl (hv members)
      | _ => exact iff_of_false nofun nofun

-- ================================================== marker grammar

/-- The value of `nested_values` that gives an object its fields. -/
def Nests (v : Json) (t : Descriptor) : Prop :=
  ∃ nested fields, v = .object nested ∧ Fields Marks nested fields ∧ t = object fields

theorem ofMarkerMembers_eq_ok {members : List (String × Json)}
    (h : ∀ e ∈ members, ∀ path t, ofMarker path e.2 = .ok t ↔ Marks e.2 t) {path : Path} :
    ∀ {fields}, ofMarkerMembers path members = .ok fields ↔ Fields Marks members fields := by
  induction members with
  | nil =>
      intro fields
      rw [ofMarkerMembers, fields_nil, Except.ok.injEq, eq_comm]
  | cons e members ih =>
      intro fields
      obtain ⟨hfirst, hrest⟩ := List.forall_mem_cons.1 h
      exact read_cons_eq_ok (hfirst _) fun _ => ih hrest

theorem ofNestedValues_eq_ok {members : List (String × Json)}
    (h : ∀ e ∈ members, ∀ path t, ofNested path e.2 = .ok t ↔ Nests e.2 t) (path : Path)
    {t : Descriptor} :
    ofNestedValues path members = .ok t ↔
      ∃ v, Dict.get? "nested_values" members = some v ∧ Nests v t := by
  induction members with
  | nil => exact iff_of_false nofun fun ⟨_, h, _⟩ => nomatch h
  | cons e members ih =>
      obtain ⟨name, v⟩ := e
      obtain ⟨hfirst, hrest⟩ := List.forall_mem_cons.1 h
      rw [ofNestedValues, Dict.get?_cons]
      by_cases hname : name = "nested_values"
      · rw [if_pos hname, if_pos hname.symm, hfirst]
        simp only [Option.some.injEq, exists_eq_left']
      · rw [if_neg hname, if_neg (Ne.symm hname)]
        exact ih hrest

theorem ofInternalType_eq_ok {members : List (String × Json)}
    (h : ∀ e ∈ members, ∀ path t, ofMarker path e.2 = .ok t ↔ Marks e.2 t) (path : Path)
    (type : String) {t : Descriptor} :
    ofInternalType path type members = .ok t ↔
      ∃ inner, Dict.get? "internal_type" members = some (.object inner)
        ∧ Marks (.object inner) t := by
  induction members with
  | nil => exact iff_of_false nofun fun ⟨_, h, _⟩ => nomatch h
  | cons e members ih =>
      obtain ⟨name, v⟩ := e
      obtain ⟨hfirst, hrest⟩ := List.forall_mem_cons.1 h
      rw [Dict.get?_cons]
      by_cases hname : name = "internal_type"
      · rw [if_pos hname.symm]
        cases v with
        | object inner =>
            rw [ofInternalType, if_pos hname, hfirst]
            simp only [Option.some.injEq, Json.object.injEq, exists_eq_left']
        | _ =>
            rw [ofInternalType.eq_def]
            simp only [if_pos hname]
            exact iff_of_false nofun fun ⟨_, h, _⟩ => nomatch h
      · rw [ofInternalType.eq_def, if_neg (Ne.symm hname)]
        simp only [if_neg hname]
        exact ih hrest

/-- What a marked node derives goes by its type. -/
theorem marks_node {members : List (String × Json)} {type : String} (h : Marked members type)
    {t : Descriptor} :
    Marks (.object members) t ↔
      (∃ kind, type = Primitive.name kind ∧ t = primitive kind)
      ∨ (type = "object" ∧ ∃ v, Dict.get? "nested_values" members = some v ∧ Nests v t)
      ∨ (type = "map" ∧ ∃ element, (∃ inner, Dict.get? "internal_type" members
          = some (.object inner) ∧ Marks (.object inner) element) ∧ t = map (some element))
      ∨ (type = "list" ∧ ∃ element, (∃ inner, Dict.get? "internal_type" members
          = some (.object inner) ∧ Marks (.object inner) element) ∧ t = list (some element))
      ∨ type = "dynamic" ∧ t = dynamic := by
  have hunique : ∀ {type'}, Marked members type' → type = type' := fun h' =>
    Json.string.inj (Option.some.inj (h.symm.trans h'))
  constructor
  · intro ht
    cases ht with
    | primitive kind htype => exact Or.inl ⟨kind, hunique htype, rfl⟩
    | object htype hnested hfields =>
        exact Or.inr (Or.inl ⟨hunique htype, _, hnested, _, _, rfl, hfields, rfl⟩)
    | map htype hinner helement =>
        exact Or.inr (Or.inr (Or.inl ⟨hunique htype, _, ⟨_, hinner, helement⟩, rfl⟩))
    | list htype hinner helement =>
        exact Or.inr (Or.inr (Or.inr (Or.inl ⟨hunique htype, _, ⟨_, hinner, helement⟩, rfl⟩)))
    | dynamic htype => exact Or.inr (Or.inr (Or.inr (Or.inr ⟨hunique htype, rfl⟩)))
  · rintro (⟨kind, rfl, rfl⟩ | ⟨rfl, _, hnested, nested, fields, rfl, hfields, rfl⟩
      | ⟨rfl, element, ⟨inner, hinner, helement⟩, rfl⟩
      | ⟨rfl, element, ⟨inner, hinner, helement⟩, rfl⟩ | ⟨rfl, rfl⟩)
    · exact .primitive kind h
    · exact .object h hnested hfields
    · exact .map h hinner helement
    · exact .list h hinner helement
    · exact .dynamic h

/-- A marked node is read by its type. -/
theorem ofMarker_node {members : List (String × Json)} {type : String}
    (h : Marked members type) (path : Path) :
    ofMarker path (.object members)
      = match Primitive.ofName? type with
        | some kind => .ok (primitive kind)
        | none =>
          if type = "object" then ofNestedValues path members
          else if type = "map" then
            (ofInternalType path type members).map fun t => map (some t)
          else if type = "list" then
            (ofInternalType path type members).map fun t => list (some t)
          else if type = "dynamic" then .ok dynamic
          else .error ⟨path, .unsupported type⟩ := by
  rewrite [ofMarker, h]
  rfl

/-- A node that names no type is not read. -/
theorem ofMarker_unmarked {members : List (String × Json)} (h : ¬∃ type, Marked members type)
    (path : Path) : ofMarker path (.object members) = .error ⟨path, .typeNameNotString⟩ := by
  rw [ofMarker]
  split
  · next type htype => exact absurd ⟨type, htype⟩ h
  · rfl

/-- A marked node is read as it derives, if the values of its members are. -/
theorem ofMarker_node_eq_ok {members : List (String × Json)} {type : String}
    (h : Marked members type)
    (hmarks : ∀ e ∈ members, ∀ path t, ofMarker path e.2 = .ok t ↔ Marks e.2 t)
    (hnests : ∀ e ∈ members, ∀ path t, ofNested path e.2 = .ok t ↔ Nests e.2 t)
    (path : Path) (t : Descriptor) :
    ofMarker path (.object members) = .ok t ↔ Marks (.object members) t := by
  rw [ofMarker_node h, marks_node h]
  cases hkind : Primitive.ofName? type with
  | some kind =>
      obtain rfl := ofName?_eq_some.1 hkind
      have hobject : kind.name ≠ "object" := by cases kind <;> decide
      have hmap : kind.name ≠ "map" := by cases kind <;> decide
      have hlist : kind.name ≠ "list" := by cases kind <;> decide
      have hdynamic : kind.name ≠ "dynamic" := by cases kind <;> decide
      simp only [hobject, hmap, hlist, hdynamic, false_and, or_false, name_inj,
        exists_eq_left', Except.ok.injEq, eq_comm]
  | none =>
      rw [or_iff_right (not_primitive_of_ofName? hkind)]
      dsimp only
      by_cases hobject : type = "object"
      · subst hobject
        rw [if_pos rfl, ofNestedValues_eq_ok hnests]
        simp
      rw [if_neg hobject, or_iff_right fun h => hobject h.1]
      by_cases hmap : type = "map"
      · subst hmap
        rw [if_pos rfl, map_eq_ok]
        simp [ofInternalType_eq_ok hmarks]
      rw [if_neg hmap, or_iff_right fun h => hmap h.1]
      by_cases hlist : type = "list"
      · subst hlist
        rw [if_pos rfl, map_eq_ok]
        simp [ofInternalType_eq_ok hmarks]
      rw [if_neg hlist, or_iff_right fun h => hlist h.1]
      by_cases hdynamic : type = "dynamic"
      · rw [if_pos hdynamic, and_iff_right hdynamic, Except.ok.injEq, eq_comm]
      · rw [if_neg hdynamic]
        refine iff_of_false (fun h => ?_) fun h => hdynamic h.1
        cases h

/-- The reader of the marker grammar reads what the grammar derives, as a node and as the value
of `nested_values` alike. -/
theorem ofMarker_eq_ok (v : Json) :
    (∀ path t, ofMarker path v = .ok t ↔ Marks v t)
      ∧ ∀ path t, ofNested path v = .ok t ↔ Nests v t := by
  induction v using Json.members_induction with
  | object members ih =>
      have hmarks := fun e he => (ih e he).1
      have hnests := fun e he => (ih e he).2
      refine ⟨fun path t => ?_, fun path t => ?_⟩
      · by_cases hnode : ∃ type, Marked members type
        · obtain ⟨type, hnode⟩ := hnode
          exact ofMarker_node_eq_ok hnode hmarks hnests path t
        · rw [ofMarker_unmarked hnode]
          refine iff_of_false nofun fun ht => ?_
          cases ht with
          | primitive _ h | dynamic h | object h | map h | list h => exact hnode ⟨_, h⟩
      · -- the nodes that the value holds are the members of an object, one level down
        rw [ofNested, map_eq_ok]
        simp only [ofMarkerMembers_eq_ok hmarks, Nests, Json.object.injEq]
        constructor
        · rintro ⟨fields, hfields, rfl⟩
          exact ⟨members, fields, rfl, hfields, rfl⟩
        · rintro ⟨_, fields, rfl, hfields, rfl⟩
          exact ⟨fields, hfields, rfl⟩
  | other v hv =>
      cases v with
      | object members => exact absurd rfl (hv members)
      | _ =>
          exact ⟨fun _ _ => iff_of_false nofun nofun,
            fun _ _ => iff_of_false nofun fun ⟨_, _, h, _⟩ => nomatch h⟩

-- ================================================================ both

theorem ofMarkerRoot_eq_ok {v : Json} {t : Descriptor} :
    ofMarkerRoot v = .ok t ↔ v.text? "type_name" = some "object" ∧ Marks v t := by
  unfold ofMarkerRoot
  split
  · next type htype =>
    rw [htype, Option.some.injEq]
    split
    · next hobject => rw [(ofMarker_eq_ok v).1, and_iff_right hobject]
    · next hobject => exact iff_of_false nofun fun h => hobject h.1
  · next hnone => exact iff_of_false nofun fun h => nomatch hnone.symm.trans h.1

/-- What the reader reads is what the value describes. -/
theorem ofValue_eq_ok {v : Json} {t : Descriptor} : ofValue v = .ok t ↔ Describes v t := by
  unfold ofValue
  split
  · next hshape =>
    have hshape := isFormat_iff.1 hshape
    rw [ofFormat_eq_ok]
    refine ⟨.constraint hshape, fun h => ?_⟩
    cases h with
    | constraint _ derived => exact derived
    | marker hnone => exact absurd hshape hnone
  next hshape =>
  have hshape : ¬(IsLeaf v ∨ IsKeyValue v) := fun h => hshape (isFormat_iff.2 h)
  have hmarker : Describes v t ↔ v.text? "type_name" = some "object" ∧ Marks v t := by
    refine ⟨fun h => ?_, fun h => .marker hshape h.1 h.2⟩
    cases h with
    | constraint h => exact absurd h hshape
    | marker _ root derived => exact ⟨root, derived⟩
  rw [hmarker]
  split
  · exact ofMarkerRoot_eq_ok
  · next hname =>
    refine iff_of_false nofun fun h => hname ?_
    obtain ⟨w, hw, -⟩ := Option.bind_eq_some_iff.1 h.1
    rw [hw]
    rfl

/-- A value is decoded as a type exactly if it describes that type by one of the two grammars,
and a value that describes none is refused as no representation of a type. -/
theorem decode_iff_describes (v : Json) :
    (∀ t, decode v = .ok t ↔ Describes v t)
      ∧ ((¬∃ t, Describes v t) ↔
        ∃ detail, decode v = .error (.invalidTypeRepresentation detail)) := by
  have hok : ∀ t, decode v = .ok t ↔ Describes v t := by
    intro t
    rw [← ofValue_eq_ok, decode]
    cases ofValue v with
    | ok t' =>
        constructor
        · intro h
          cases h
          rfl
        · intro h
          cases h
          rfl
    | error m =>
        refine iff_of_false (fun h => ?_) fun h => ?_
        · cases h
        · cases h
  refine ⟨hok, ?_⟩
  simp only [← hok]
  unfold decode
  cases ofValue v with
  | ok t =>
      refine iff_of_false (fun h => h ⟨t, rfl⟩) ?_
      rintro ⟨_, h⟩
      cases h
  | error m =>
      refine iff_of_true ?_ ⟨m.message, rfl⟩
      rintro ⟨_, h⟩
      cases h

/-- A map may have fields with the names that leaves and markers use. -/
example :
    decode (.object [("required", .object [("required", .null), ("type", .string "bool")]),
      ("type", .object [("required", .null), ("type", .string "string")]),
      ("type_name", .object [("required", .null), ("type", .string "number")])])
    = .ok (.object [("required", .primitive .bool), ("type", .primitive .string),
        ("type_name", .primitive .number)]) := rfl

end Descriptor

end ProviderLink
