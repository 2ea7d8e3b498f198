/-
Schemas that are edited so that they ask for no more. An edit adds an
optional attribute or block under a name that is not in use, or makes a
required one optional, at the schema itself or at one nested in its
blocks. What satisfied the schema satisfies the edited one, and is read
as before but for the names that were added (`decodeInput_edits`).

The edits are forgotten first. However many there were and wherever they
were made, the schema at the end is `Looser` than the one at the start:
level by level, every entry is still there with the type it had, none is
required that was not, and each new one is optional and has a name that
nothing had. One edit does that (`Edit.looser`) and it is transitive, so
any number of them do, and it is all that the rest looks at.

An input that satisfies the schema has no member under a new name, since
a member must be named. So a new name is filled with `null` at the levels
that are there, and the other members are filled as before, but for the
blocks, which may be looser in turn. `Gains` says this of the two results.
-/
import Mathlib.Logic.Relation
import ProviderLink.Proofs.Codec
import ProviderLink.Proofs.Ordered

namespace ProviderLink.ObjectSchema

open Json

-- =============================================================== edits

/-- An attribute or a block has this name. -/
def Names (s : ObjectSchema) (key : String) : Prop :=
  Dict.has key s.attributes ∨ Dict.has key s.blocks

theorem names_iff_mem {s : ObjectSchema} {key : String} :
    s.Names key ↔ key ∈ Dict.keys s.attributes ++ Dict.keys s.blocks := by
  rw [Names, List.mem_append, Dict.has_iff_mem_keys, Dict.has_iff_mem_keys]

/-- One edit: an optional entry under a new name, or an entry that is required no more, of the
schema itself or of a schema nested in its blocks. -/
inductive Edit : ObjectSchema → ObjectSchema → Prop
  | addAttribute {s : ObjectSchema} {key : String} {a : AttrSchema} (hnew : ¬s.Names key)
    (hoptional : a.required = false) : Edit s ⟨Dict.insert key a s.attributes, s.blocks⟩
  | addBlock {s : ObjectSchema} {key : String} {b : BlockSchema} (hnew : ¬s.Names key)
    (hoptional : b.required = false) : Edit s ⟨s.attributes, Dict.insert key b s.blocks⟩
  | relaxAttribute {s : ObjectSchema} {key : String} {a : AttrSchema}
    (hfound : Dict.get? key s.attributes = some a) :
    Edit s ⟨Dict.insert key { a with required := false } s.attributes, s.blocks⟩
  | relaxBlock {s : ObjectSchema} {key : String} {b : BlockSchema}
    (hfound : Dict.get? key s.blocks = some b) :
    Edit s ⟨s.attributes, Dict.insert key { b with required := false } s.blocks⟩
  | nested {s t : ObjectSchema} {key : String} {b : BlockSchema}
    (hfound : Dict.get? key s.blocks = some b) (hedit : Edit b.nested t) :
    Edit s ⟨s.attributes, Dict.insert key { b with nested := t } s.blocks⟩

/-- The second of two tables of entries extends the first, which belongs to a schema: every entry is
still there and is required only if it was, and each other one is optional and has a name that is
not in use. -/
structure Extends (s : ObjectSchema) {α : Type} (required : α → Bool) (d d' : Dict String α) :
    Prop where
  kept : ∀ k x, Dict.get? k d = some x →
    ∃ x', Dict.get? k d' = some x' ∧ (required x' → required x)
  added : ∀ k x', Dict.get? k d = none → Dict.get? k d' = some x' →
    ¬s.Names k ∧ required x' = false

/-- The second schema has all that the first has and requires no more of it, and whatever else it
has is optional and newly named; and so at every level. -/
inductive Looser : ObjectSchema → ObjectSchema → Prop
  | level {s t : ObjectSchema}
    (attributes : Extends s AttrSchema.required s.attributes t.attributes)
    (types : ∀ k a a', Dict.get? k s.attributes = some a → Dict.get? k t.attributes = some a' →
      a'.type = a.type)
    (blocks : Extends s BlockSchema.required s.blocks t.blocks)
    (nested : ∀ k b b', Dict.get? k s.blocks = some b → Dict.get? k t.blocks = some b' →
      Looser b.nested b'.nested) : Looser s t

variable {s t : ObjectSchema}

theorem names_of_attribute {k : String} {a : AttrSchema} (h : Dict.get? k s.attributes = some a) :
    s.Names k := Or.inl (Dict.has_iff.2 ⟨a, h⟩)

theorem names_of_block {k : String} {b : BlockSchema} (h : Dict.get? k s.blocks = some b) :
    s.Names k := Or.inr (Dict.has_iff.2 ⟨b, h⟩)

-- ============================================================== tables

section Tables

variable {α : Type} {required : α → Bool} {d d' d'' : Dict String α} {key : String} {x y : α}

theorem Extends.refl (s : ObjectSchema) (required : α → Bool) (d : Dict String α) :
    Extends s required d d :=
  ⟨fun _ x hx => ⟨x, hx, id⟩, fun _ _ hnone hx => nomatch hnone.symm.trans hx⟩

/-- Names that are in use stay so, so what is new to the second schema is new to the first. -/
theorem Extends.trans (hnames : ∀ k, s.Names k → t.Names k) (h : Extends s required d d')
    (h' : Extends t required d' d'') : Extends s required d d'' := by
  refine ⟨fun k x hx => ?_, fun k x'' hnone hx'' => ?_⟩
  · obtain ⟨x', hx', hrequired⟩ := h.kept k x hx
    obtain ⟨x'', hx'', hrequired'⟩ := h'.kept k x' hx'
    exact ⟨x'', hx'', fun hr => hrequired (hrequired' hr)⟩
  · -- the entry came with the first step, or else with the second
    cases hmiddle : Dict.get? k d' with
    | some x' =>
        obtain ⟨hnew, hoptional⟩ := h.added k x' hnone hmiddle
        obtain ⟨y, hy, hrequired⟩ := h'.kept k x' hmiddle
        cases hy.symm.trans hx''
        refine ⟨hnew, Bool.eq_false_iff.2 fun hr => ?_⟩
        rw [hrequired hr] at hoptional
        cases hoptional
    | none =>
        obtain ⟨hnew, hoptional⟩ := h'.added k x'' hmiddle hx''
        exact ⟨fun hk => hnew (hnames k hk), hoptional⟩

/-- An entry that is put in asks for no more than the one in whose place it comes, or else it is
optional and its name is new. -/
theorem Extends.insert (hplace : ∀ y, Dict.get? key d = some y → required x → required y)
    (hnew : Dict.get? key d = none → ¬s.Names key ∧ required x = false) :
    Extends s required d (Dict.insert key x d) := by
  refine ⟨fun k y hy => ?_, fun k y hnone hy => ?_⟩
  · by_cases heq : k = key
    · subst heq
      exact ⟨x, Dict.get?_insert_self k x d, hplace y hy⟩
    · exact ⟨y, (Dict.get?_insert_of_ne heq x d).trans hy, id⟩
  · by_cases heq : k = key
    · subst heq
      cases (Dict.get?_insert_self k x d).symm.trans hy
      exact hnew hnone
    · cases hnone.symm.trans ((Dict.get?_insert_of_ne heq x d).symm.trans hy)

/-- What an entry that is put in has to the one in whose place it comes, and every entry to itself,
the entries of a name before and after have to one another. -/
theorem forall_insert {R : α → α → Prop} (hrefl : ∀ z, R z z)
    (hplace : ∀ y, Dict.get? key d = some y → R y x) (k : String) (z z' : α)
    (hz : Dict.get? k d = some z) (hz' : Dict.get? k (Dict.insert key x d) = some z') : R z z' := by
  by_cases heq : k = key
  · subst heq
    cases (Dict.get?_insert_self k x d).symm.trans hz'
    exact hplace z hz
  · cases hz.symm.trans ((Dict.get?_insert_of_ne heq x d).symm.trans hz')
    exact hrefl z

end Tables

-- ============================================================= schemas

/-- A name that is in use stays so. -/
theorem Looser.names (h : Looser s t) (k : String) (hk : s.Names k) : t.Names k := by
  cases h with
  | level attributes _ blocks _ =>
      rcases hk with hk | hk
      · obtain ⟨a, ha⟩ := Dict.has_iff.1 hk
        obtain ⟨a', ha', -⟩ := attributes.kept k a ha
        exact names_of_attribute ha'
      · obtain ⟨b, hb⟩ := Dict.has_iff.1 hk
        obtain ⟨b', hb', -⟩ := blocks.kept k b hb
        exact names_of_block hb'

theorem Looser.refl (s : ObjectSchema) : Looser s s := by
  induction s using nested_induction with
  | step s ih =>
      refine .level (.refl ..) (fun k a a' ha ha' => ?_) (.refl ..) fun k b b' hb hb' => ?_
      · cases ha.symm.trans ha'
        rfl
      · cases hb.symm.trans hb'
        exact ih _ (Dict.mem_of_get? hb)

theorem Looser.trans (hst : Looser s t) : ∀ {u : ObjectSchema}, Looser t u → Looser s u := by
  induction hst with
  | @level s t attributes types blocks nested ih =>
      intro u htu
      have hnames := (Looser.level attributes types blocks nested).names
      cases htu with
      | level attributes' types' blocks' nested' =>
          refine .level (attributes.trans hnames attributes') (fun k a a'' ha ha'' => ?_)
            (blocks.trans hnames blocks') fun k b b'' hb hb'' => ?_
          · obtain ⟨a', ha', -⟩ := attributes.kept k a ha
            exact (types' k a' a'' ha' ha'').trans (types k a a' ha ha')
          · obtain ⟨b', hb', -⟩ := blocks.kept k b hb
            exact ih k b b' hb hb' (nested' k b' b'' hb' hb'')

/-- A name that is not in use has no entry. -/
theorem get?_of_not_names {k : String} (h : ¬s.Names k) :
    Dict.get? k s.attributes = none ∧ Dict.get? k s.blocks = none := by
  obtain ⟨hattribute, hblock⟩ := not_or.1 h
  exact ⟨Option.not_isSome_iff_eq_none.1 hattribute, Option.not_isSome_iff_eq_none.1 hblock⟩

/-- A schema with one attribute put in is looser, if that asks for no more than the one in whose
place it comes, or else is optional and newly named. -/
theorem Looser.insert_attribute {key : String} {a : AttrSchema}
    (hplace : ∀ y, Dict.get? key s.attributes = some y →
      a.type = y.type ∧ (a.required → y.required))
    (hnew : Dict.get? key s.attributes = none → ¬s.Names key ∧ a.required = false) :
    Looser s ⟨Dict.insert key a s.attributes, s.blocks⟩ := by
  refine .level (.insert (fun y hy => (hplace y hy).2) hnew) ?_ (.refl ..) fun k b b' hb hb' => ?_
  · exact forall_insert (R := fun y y' => y'.type = y.type) (fun _ => rfl)
      fun y hy => (hplace y hy).1
  · cases hb.symm.trans hb'
    exact .refl _

/-- So it is with one block put in, which may be looser inside. -/
theorem Looser.insert_block {key : String} {b : BlockSchema}
    (hplace : ∀ y, Dict.get? key s.blocks = some y →
      Looser y.nested b.nested ∧ (b.required → y.required))
    (hnew : Dict.get? key s.blocks = none → ¬s.Names key ∧ b.required = false) :
    Looser s ⟨s.attributes, Dict.insert key b s.blocks⟩ := by
  refine .level (.refl ..) (fun k a a' ha ha' => ?_) (.insert (fun y hy => (hplace y hy).2) hnew) ?_
  · cases ha.symm.trans ha'
    rfl
  · exact forall_insert (R := fun y y' => Looser y.nested y'.nested) (fun _ => .refl _)
      fun y hy => (hplace y hy).1

/-- An edit loosens. -/
theorem Edit.looser (h : Edit s t) : Looser s t := by
  induction h with
  | addAttribute hnew hoptional =>
      exact .insert_attribute (fun y hy => nomatch (get?_of_not_names hnew).1.symm.trans hy)
        fun _ => ⟨hnew, hoptional⟩
  | addBlock hnew hoptional =>
      exact .insert_block (fun y hy => nomatch (get?_of_not_names hnew).2.symm.trans hy)
        fun _ => ⟨hnew, hoptional⟩
  | relaxAttribute hfound =>
      refine .insert_attribute (fun y hy => ?_) fun hnone => nomatch hnone.symm.trans hfound
      cases hfound.symm.trans hy
      exact ⟨rfl, nofun⟩
  | relaxBlock hfound =>
      refine .insert_block (fun y hy => ?_) fun hnone => nomatch hnone.symm.trans hfound
      cases hfound.symm.trans hy
      exact ⟨.refl _, nofun⟩
  | nested hfound _ ih =>
      refine .insert_block (fun y hy => ?_) fun hnone => nomatch hnone.symm.trans hfound
      cases hfound.symm.trans hy
      exact ⟨ih, id⟩

/-- So does any number of them. -/
theorem looser_of_edits (h : Relation.ReflTransGen Edit s t) : Looser s t := by
  induction h with
  | refl => exact .refl s
  | tail _ hedit ih => exact ih.trans hedit.looser

-- ============================================================== values

/-- What satisfies a schema satisfies a looser one. -/
theorem Looser.satisfies (h : Looser s t) : ∀ {v : Json}, s.Satisfies v → t.Satisfies v := by
  induction h with
  | @level s t attributes types blocks nested ih =>
      intro v hs
      have hnames := (Looser.level attributes types blocks nested).names
      cases hs with
      | object named blockFits attributeFits requiredAttribute requiredBlock =>
          refine .object (fun k v hv => hnames k (named k v hv)) (fun k v b' hv hb' hne => ?_)
            (fun k v a' hv hnone ha' => ?_) (fun k a' ha' hrequired => ?_)
            fun k b' hb' hrequired => ?_
          · cases hb : Dict.get? k s.blocks with
            | some b => exact ih k b b' hb hb' (blockFits k v b hv hb hne)
            | none => exact absurd (named k v hv) (blocks.added k b' hb hb').1
          · cases ha : Dict.get? k s.attributes with
            | none => exact absurd (named k v hv) (attributes.added k a' ha ha').1
            | some a =>
                have hnoblock : Dict.get? k s.blocks = none := by
                  refine Option.eq_none_iff_forall_ne_some.2 fun b hb => ?_
                  obtain ⟨b', hb', -⟩ := blocks.kept k b hb
                  cases hnone.symm.trans hb'
                rw [types k a a' ha ha']
                exact attributeFits k v a hv hnoblock ha
          · cases ha : Dict.get? k s.attributes with
            | none =>
                rw [(attributes.added k a' ha ha').2] at hrequired
                cases hrequired
            | some a =>
                obtain ⟨a'', ha'', hkept⟩ := attributes.kept k a ha
                cases ha'.symm.trans ha''
                exact requiredAttribute k a ha (hkept hrequired)
          · cases hb : Dict.get? k s.blocks with
            | none =>
                rw [(blocks.added k b' hb hb').2] at hrequired
                cases hrequired
            | some b =>
                obtain ⟨b'', hb'', hkept⟩ := blocks.kept k b hb
                cases hb'.symm.trans hb''
                exact requiredBlock k b hb (hkept hrequired)

/-- The second value, read with the second schema, is the first, read with the first schema, with
`null` under every name that the second schema alone has, at every level that is there. -/
inductive Gains : ObjectSchema → ObjectSchema → Json → Json → Prop
  | null (s t : ObjectSchema) : Gains s t .null .null
  | object {s t : ObjectSchema} {members full : List (String × Json)}
      (sorted : Dict.Sorted full)
      (names : ∀ k, Dict.has k full ↔ Dict.has k members ∨ t.Names k ∧ ¬s.Names k)
      (added : ∀ k w, Dict.get? k members = none → Dict.get? k full = some w → w = .null)
      (kept : ∀ k v w, Dict.get? k members = some v → Dict.get? k full = some w →
        Dict.get? k s.blocks = none → w = v)
      (inBlock : ∀ k v w b b', Dict.get? k members = some v → Dict.get? k full = some w →
        Dict.get? k s.blocks = some b → Dict.get? k t.blocks = some b' →
        Gains b.nested b'.nested v w) :
      Gains s t (.object members) (.object full)

/-- A filled object's members. -/
def filledMembers (s : ObjectSchema) (members : List (String × Json)) : List (String × Json) :=
  withNulls (Dict.keys s.attributes ++ Dict.keys s.blocks)
    (members.map fun e => (e.1, fillMember s.attributes s.blocks e.1 e.2))

theorem sorted_filledMembers {members : List (String × Json)} (h : Dict.Sorted members) :
    Dict.Sorted (s.filledMembers members) :=
  sorted_withNulls _ (List.pairwise_map.2 h)

/-- Under a name that was there stands what was there, filled. -/
theorem get?_filledMembers_of_some {members : List (String × Json)} {k : String} {v : Json}
    (h : Dict.get? k members = some v) : Dict.get? k (s.filledMembers members)
      = some (fillMember s.attributes s.blocks k v) := by
  rw [filledMembers, get?_withNulls, Dict.get?_map (fillMember s.attributes s.blocks), h]
  rfl

/-- Under another name stands nothing, or null if the schema has the name. -/
theorem get?_filledMembers_of_none {members : List (String × Json)} {k : String}
    (h : Dict.get? k members = none) (w : Json) :
    Dict.get? k (s.filledMembers members) = some w ↔ s.Names k ∧ w = .null := by
  rw [filledMembers, get?_withNulls, Dict.get?_map (fillMember s.attributes s.blocks), h,
    Option.map_none, Option.none_or, names_iff_mem]
  split
  case isTrue hk => rw [and_iff_right hk, Option.some.injEq, eq_comm]
  case isFalse hk => exact iff_of_false nofun fun h => hk h.1

theorem has_filledMembers {members : List (String × Json)} {k : String} :
    Dict.has k (s.filledMembers members) ↔ Dict.has k members ∨ s.Names k := by
  cases hv : Dict.get? k members with
  | some v =>
      exact iff_of_true (Dict.has_iff.2 ⟨_, get?_filledMembers_of_some hv⟩)
        (Or.inl (Dict.has_iff.2 ⟨v, hv⟩))
  | none =>
      have hlacks : ¬Dict.has k members = true := by simp [Dict.has, hv]
      simp only [Dict.has_iff, get?_filledMembers_of_none hv, exists_eq_right]
      rw [← Dict.has_iff, or_iff_right hlacks]

/-- What two schemas fill a member with comes of the same member, or else is null by both. -/
theorem filledMembers_cases {members : List (String × Json)} {k : String} {v w : Json}
    (hv : Dict.get? k (s.filledMembers members) = some v)
    (hw : Dict.get? k (t.filledMembers members) = some w) :
    (∃ x, Dict.get? k members = some x ∧ v = fillMember s.attributes s.blocks k x
        ∧ w = fillMember t.attributes t.blocks k x)
      ∨ v = .null ∧ w = .null := by
  cases hmember : Dict.get? k members with
  | some x =>
      cases hv.symm.trans (get?_filledMembers_of_some hmember)
      cases hw.symm.trans (get?_filledMembers_of_some hmember)
      exact Or.inl ⟨x, rfl, rfl, rfl⟩
  | none =>
      exact Or.inr ⟨((get?_filledMembers_of_none hmember v).1 hv).2,
        ((get?_filledMembers_of_none hmember w).1 hw).2⟩

/-- A looser schema names what was named before, and what it alone names. -/
theorem Looser.names_iff (h : Looser s t) (k : String) :
    t.Names k ↔ s.Names k ∨ t.Names k ∧ ¬s.Names k := by
  refine ⟨fun hk => ?_, fun hk => hk.elim (h.names k) And.left⟩
  by_cases hold : s.Names k
  · exact Or.inl hold
  · exact Or.inr ⟨hk, hold⟩

/-- Filling by a looser schema adds what that alone has. -/
theorem Looser.gains (h : Looser s t) : ∀ {v : Json}, v.Ordered → s.Satisfies v →
    Gains s t (s.fill v) (t.fill v) := by
  induction h with
  | @level s t attributes types blocks nested ih =>
      intro v hordered hs
      have hlooser := Looser.level attributes types blocks nested
      cases hs with
      | @object _ members named blockFits attributeFits requiredAttribute requiredBlock =>
          rw [Json.Ordered] at hordered
          rw [fill_object, fill_object]
          refine .object (sorted_filledMembers hordered.1) (fun k => ?_) (fun k w hnone hw => ?_)
            (fun k v w hv hw hnone => ?_) fun k v w b b' hv hw hb hb' => ?_
          · have hs : Dict.has k (s.filledMembers members) ↔ _ := has_filledMembers
            have ht : Dict.has k (t.filledMembers members) ↔ _ := has_filledMembers
            rw [hlooser.names_iff, ← or_assoc] at ht
            exact ht.trans (or_congr_left hs.symm)
          · cases hmember : Dict.get? k members with
            | some x => cases hnone.symm.trans (get?_filledMembers_of_some hmember)
            | none => exact ((get?_filledMembers_of_none hmember w).1 hw).2
          · rcases filledMembers_cases hv hw with ⟨x, hmember, rfl, rfl⟩ | ⟨rfl, rfl⟩
            · -- no block has the name, so an attribute does, and in both schemas it is the same
              have hk := named k x hmember
              obtain ⟨a, ha⟩ := Dict.has_iff.1 (hk.resolve_right fun hblock => by
                obtain ⟨b, hb⟩ := Dict.has_iff.1 hblock
                cases hnone.symm.trans hb)
              obtain ⟨a', ha', -⟩ := attributes.kept k a ha
              have hnone' : Dict.get? k t.blocks = none :=
                Option.eq_none_iff_forall_ne_some.2 fun b' hb' =>
                  (blocks.added k b' hnone hb').1 hk
              rw [fillMember_eq, fillMember_eq, hnone, hnone', ha, ha']
              dsimp only
              rw [types k a a' ha ha']
            · rfl
          · rcases filledMembers_cases hv hw with ⟨x, hmember, rfl, rfl⟩ | ⟨rfl, rfl⟩
            · rw [fillMember_eq, fillMember_eq, hb, hb']
              dsimp only
              by_cases hnull : x = .null
              · rw [hnull, fill_null, fill_null]
                exact .null ..
              · have hx := orderedMembers_iff.1 hordered.2 _ (Dict.mem_of_get? hmember)
                exact ih k b b' hb hb' hx (blockFits k x b hmember hb hnull)
            · exact .null ..

/-- Nothing else is the first value with what a looser schema adds. -/
theorem Looser.gains_unique (h : Looser s t) : ∀ {n m m' : Json}, Gains s t n m → Gains s t n m' →
    m = m' := by
  induction h with
  | @level s t attributes types blocks nested ih =>
      intro n m m' hm hm'
      cases hm with
      | null =>
          cases hm'
          rfl
      | @object _ _ members full sorted names added kept inBlock =>
          cases hm' with
          | @object _ _ _ full' sorted' names' added' kept' inBlock' =>
              refine congrArg Json.object (Dict.eq_of_get? sorted sorted' fun k => ?_)
              have hsame : ∀ w w', Dict.get? k full = some w → Dict.get? k full' = some w' →
                  w = w' := by
                intro w w' hw hw'
                cases hmember : Dict.get? k members with
                | none => rw [added k w hmember hw, added' k w' hmember hw']
                | some v =>
                    cases hb : Dict.get? k s.blocks with
                    | none => rw [kept k v w hmember hw hb, kept' k v w' hmember hw' hb]
                    | some b =>
                        obtain ⟨b', hb', -⟩ := blocks.kept k b hb
                        exact ih k b b' hb hb' (inBlock k v w b b' hmember hw hb hb')
                          (inBlock' k v w' b b' hmember hw' hb hb')
              have hkeys : (∃ w, Dict.get? k full = some w) ↔ ∃ w, Dict.get? k full' = some w := by
                rw [← Dict.has_iff, ← Dict.has_iff, names, names']
              cases hw : Dict.get? k full with
              | some w =>
                  obtain ⟨w', hw'⟩ := hkeys.1 ⟨w, hw⟩
                  rw [hw', hsame w w' hw hw']
              | none =>
                  refine (Option.eq_none_iff_forall_ne_some.2 fun w' hw' => ?_).symm
                  obtain ⟨w, hfound⟩ := hkeys.2 ⟨w', hw'⟩
                  cases hw.symm.trans hfound

-- ============================================================== inputs

/-- However a schema is edited so that it asks for no more, an input that was read is read, and
comes to what it came to before with `null` under the added names at the levels that are there, and
to nothing else. -/
theorem decodeInput_edits (hs : s.Ordered) (ht : t.Ordered)
    (hedits : Relation.ReflTransGen Edit s t) {bytes : Bytes} {n : Json}
    (h : Codec.decodeInput bytes s = .ok n) :
    ∃ m, Codec.decodeInput bytes t = .ok m ∧ Gains s t n m ∧ ∀ m', Gains s t n m' → m' = m := by
  obtain ⟨v, hread, hsatisfies, rfl⟩ := (Codec.decodeInput_eq_ok hs).1 h
  have hlooser := looser_of_edits hedits
  have hgains := hlooser.gains (Codec.ordered_of_ofBytes? hread) hsatisfies
  refine ⟨t.fill v, ?_, hgains, fun m' hm' => hlooser.gains_unique hm' hgains⟩
  exact (Codec.decodeInput_eq_ok ht).2 ⟨v, hread, hlooser.satisfies hsatisfies, rfl⟩

/-- What a relay is configured with: a token, and how often it tries again. -/
def demoRelay : ObjectSchema :=
  ⟨[("token", ⟨"token", .primitive .string, true⟩)],
    [("retry", ⟨"retry", ⟨[("limit", ⟨"limit", .primitive .number, true⟩)], []⟩, true⟩)]⟩

/-- It may wait before it tries again. -/
def demoRelayDelayed : ObjectSchema :=
  ⟨demoRelay.attributes,
    [("retry", ⟨"retry", ⟨[("delay", ⟨"delay", .primitive .number, false⟩),
      ("limit", ⟨"limit", .primitive .number, true⟩)], []⟩, true⟩)]⟩

/-- There may be a proxy, too. -/
def demoRelayProxied : ObjectSchema :=
  ⟨demoRelay.attributes, ("proxy", ⟨"proxy", .empty, false⟩) :: demoRelayDelayed.blocks⟩

/-- And there need not be a token. -/
def demoLaterRelay : ObjectSchema :=
  ⟨[("token", ⟨"token", .primitive .string, false⟩)], demoRelayProxied.blocks⟩

def demoRelayInput : Json :=
  .object [("retry", .object [("limit", .number (.int 3 (by decide)))]), ("token", .string "t")]

/-- What is added is null where it could stand, and the block that is not there has no level. -/
theorem decodeInput_edits_relay :
    demoRelay.Ordered ∧ demoLaterRelay.Ordered
      ∧ Relation.ReflTransGen Edit demoRelay demoLaterRelay
      ∧ Codec.decodeInput demoRelayInput.text.toUTF8 demoRelay = .ok demoRelayInput
      ∧ Codec.decodeInput demoRelayInput.text.toUTF8 demoLaterRelay
        = .ok (.object [("proxy", .null),
          ("retry", .object [("delay", .null), ("limit", .number (.int 3 (by decide)))]),
          ("token", .string "t")])
      ∧ Gains demoRelay demoLaterRelay demoRelayInput (.object [("proxy", .null),
          ("retry", .object [("delay", .null), ("limit", .number (.int 3 (by decide)))]),
          ("token", .string "t")]) := by
  have hordered : demoRelay.Ordered := by decide
  have hordered' : demoLaterRelay.Ordered := by decide
  have hedits : Relation.ReflTransGen Edit demoRelay demoLaterRelay := by
    have hdelay : Edit demoRelay demoRelayDelayed :=
      @Edit.nested demoRelay _ "retry" _ rfl
        (@Edit.addAttribute _ "delay" ⟨"delay", .primitive .number, false⟩
          (by simp [Names, Dict.has, Dict.get?]) rfl)
    have hproxy : Edit demoRelayDelayed demoRelayProxied :=
      @Edit.addBlock _ "proxy" ⟨"proxy", .empty, false⟩
        (by simp [demoRelay, demoRelayDelayed, Names, Dict.has, Dict.get?]) rfl
    have htoken : Edit demoRelayProxied demoLaterRelay :=
      @Edit.relaxAttribute demoRelayProxied "token" _ rfl
    exact .tail (.tail (.single hdelay) hproxy) htoken
  have hread : Json.ofBytes? demoRelayInput.text.toUTF8 = some demoRelayInput := by
    have hlegible : demoRelayInput.Legible := by
      simp [demoRelayInput, Json.Legible, Json.LegibleMembers, Number.legible_int]
    rw [Json.ofBytes?_text hlegible (by decide)]
    rfl
  have hparse := Codec.parse_eq_ok.2 ⟨hread, by decide⟩
  have hdecode : Codec.decodeInput demoRelayInput.text.toUTF8 demoRelay = .ok demoRelayInput :=
    Codec.decodeInput_steps.2 ⟨demoRelayInput, hparse, rfl, rfl⟩
  obtain ⟨m, hm, hgains, -⟩ := decodeInput_edits hordered hordered' hedits hdecode
  have hlater : Codec.decodeInput demoRelayInput.text.toUTF8 demoLaterRelay
      = .ok (.object [("proxy", .null),
          ("retry", .object [("delay", .null), ("limit", .number (.int 3 (by decide)))]),
          ("token", .string "t")]) :=
    Codec.decodeInput_steps.2 ⟨demoRelayInput, hparse, rfl, rfl⟩
  cases hm.symm.trans hlater
  exact ⟨hordered, hordered', hedits, hdecode, hm, hgains⟩

end ProviderLink.ObjectSchema
