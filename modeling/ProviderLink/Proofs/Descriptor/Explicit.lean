/-
Descriptors that leave nothing open: no node is `invalid`, and every map
and list says its element. Being explicit is a property of all nodes that
stand in a descriptor (`Inside`), and it goes down level by level
(`explicit_iff`).

What either grammar of types described as data derives is explicit
(`Constrains.explicit`, `Marks.explicit`), since it has no rule for what is
left open. A derivation holds those of its fields in a list, so an
induction along it needs a principle of its own, which gives for every
field both its derivation and what is to be shown of it
(`Constrains.induction`, `Marks.induction`).
-/
import ProviderLink.Proofs.Descriptor.Reading

namespace ProviderLink.Descriptor

-- =============================================================== nodes

mutual

/-- What holds of a descriptor if it holds of the descriptors right inside it holds of all. -/
@[elab_as_elim]
theorem children_induction {motive : Descriptor → Prop}
    (node : ∀ t, (∀ u ∈ t.children, motive u) → motive t) : (t : Descriptor) → motive t
  | object fields => node _ (children_induction_fields node fields)
  | map (some element) => node _ (List.forall_mem_singleton.2 (children_induction node element))
  | list (some element) => node _ (List.forall_mem_singleton.2 (children_induction node element))
  | primitive _ | map none | list none | dynamic | invalid =>
    node _ fun _ h => absurd h List.not_mem_nil

theorem children_induction_fields {motive : Descriptor → Prop}
    (node : ∀ t, (∀ u ∈ t.children, motive u) → motive t) :
    (fields : List (String × Descriptor)) → ∀ u ∈ fields.map Prod.snd, motive u
  | [] => fun _ h => absurd h List.not_mem_nil
  | (_, type) :: rest =>
    List.forall_mem_cons.2 ⟨children_induction node type, children_induction_fields node rest⟩

end

/-- The first descriptor is a node of the second. -/
inductive Inside : Descriptor → Descriptor → Prop
  | self (t : Descriptor) : Inside t t
  | child {t u w : Descriptor} (hchild : u ∈ t.children) (hinside : Inside w u) : Inside w t

/-- What holds of every node holds of the descriptor itself and of every node of its children. -/
theorem forall_inside_iff {P : Descriptor → Prop} {t : Descriptor} :
    (∀ u, Inside u t → P u) ↔ P t ∧ ∀ u ∈ t.children, ∀ w, Inside w u → P w := by
  constructor
  · exact fun h => ⟨h t (.self t), fun u hu w hw => h w (.child hu hw)⟩
  · rintro ⟨hnode, hchildren⟩ u hu
    cases hu with
    | self => exact hnode
    | child hchild hinside => exact hchildren _ hchild u hinside

/-- No node is `invalid`, and every map and list says its element. -/
def Explicit (t : Descriptor) : Prop :=
  ∀ u, Inside u t → u ≠ invalid ∧ u ≠ map none ∧ u ≠ list none

theorem explicit_iff {t : Descriptor} :
    t.Explicit ↔
      (t ≠ invalid ∧ t ≠ map none ∧ t ≠ list none) ∧ ∀ u ∈ t.children, u.Explicit :=
  forall_inside_iff

theorem anyInvalid_eq_false {fields : List (String × Descriptor)} :
    anyInvalid fields = false ↔ ∀ e ∈ fields, e.2.containsInvalid = false := by
  induction fields with
  | nil => simp [anyInvalid]
  | cons e fields ih =>
      obtain ⟨name, t⟩ := e
      rw [anyInvalid, Bool.or_eq_false_iff, ih, List.forall_mem_cons]

/-- No `invalid` node is found if there is none right here and none is found right inside. -/
theorem containsInvalid_node {t : Descriptor} :
    t.containsInvalid = false ↔ t ≠ invalid ∧ ∀ u ∈ t.children, u.containsInvalid = false := by
  cases t with
  | object fields =>
      rw [containsInvalid, anyInvalid_eq_false, children, List.forall_mem_map]
      exact (and_iff_right nofun).symm
  | map element | list element =>
      cases element with
      | none => simp [containsInvalid, children]
      | some u => simp [containsInvalid, children]
  | primitive | dynamic => simp [containsInvalid, children]
  | invalid => simp [containsInvalid]

/-- No `invalid` node is found if there is none. -/
theorem containsInvalid_eq_false (t : Descriptor) :
    t.containsInvalid = false ↔ ¬Inside invalid t := by
  induction t using children_induction with
  | node t ih =>
      rw [containsInvalid_node]
      constructor
      · rintro ⟨hnode, hchildren⟩ hinside
        cases hinside with
        | self => exact hnode rfl
        | child hchild hinside => exact (ih _ hchild).1 (hchildren _ hchild) hinside
      · intro hnone
        refine ⟨fun heq => hnone (heq ▸ .self t), fun u hu => (ih u hu).2 fun hinside => ?_⟩
        exact hnone (.child hu hinside)

/-- What is explicit is found to hold no `invalid` node. -/
theorem Explicit.containsInvalid_eq_false {t : Descriptor} (h : t.Explicit) :
    t.containsInvalid = false :=
  t.containsInvalid_eq_false.2 fun hinside => (h invalid hinside).1 rfl

-- ========================================================= derivations

/-- What each rule of the constraint grammar keeps holds of all that it derives. -/
@[elab_as_elim]
theorem Constrains.induction {motive : (v : Json) → (t : Descriptor) → Constrains v t → Prop}
    (keyValue : ∀ {members fields} hshape (hfields : Fields Constrains members fields),
      Fields (fun v t => ∃ h, motive v t h) members fields →
      motive (.object members) (.object fields) (.keyValue hshape hfields))
    (primitive : ∀ kind {members} hleaf,
      motive (.object members) (.primitive kind) (.primitive kind hleaf))
    (list : ∀ {members children element} hleaf hchildren helement,
      motive children element helement →
      motive (.object members) (.list (some element)) (.list hleaf hchildren helement))
    (object : ∀ {members children fields} hleaf hchildren hshape
      (hfields : Fields Constrains children fields),
      Fields (fun v t => ∃ h, motive v t h) children fields →
      motive (.object members) (.object fields) (.object hleaf hchildren hshape hfields))
    {v : Json} {t : Descriptor} (h : Constrains v t) : motive v t h :=
  @Constrains.rec motive
    (fun members fields _ => Fields (fun v t => ∃ h, motive v t h) members fields)
    keyValue primitive list object .nil
    (fun name _ _ _ _ first _ ih hrest => .cons name ⟨first, ih⟩ hrest) v t h

/-- What each rule of the marker grammar keeps holds of all that it derives. -/
@[elab_as_elim]
theorem Marks.induction {motive : (v : Json) → (t : Descriptor) → Marks v t → Prop}
    (primitive : ∀ kind {members} htype,
      motive (.object members) (.primitive kind) (.primitive kind htype))
    (dynamic : ∀ {members} htype, motive (.object members) .dynamic (.dynamic htype))
    (object : ∀ {members nested fields} htype hnested (hfields : Fields Marks nested fields),
      Fields (fun v t => ∃ h, motive v t h) nested fields →
      motive (.object members) (.object fields) (.object htype hnested hfields))
    (map : ∀ {members inner element} htype hinner helement,
      motive (.object inner) element helement →
      motive (.object members) (.map (some element)) (.map htype hinner helement))
    (list : ∀ {members inner element} htype hinner helement,
      motive (.object inner) element helement →
      motive (.object members) (.list (some element)) (.list htype hinner helement))
    {v : Json} {t : Descriptor} (h : Marks v t) : motive v t h :=
  @Marks.rec motive
    (fun members fields _ => Fields (fun v t => ∃ h, motive v t h) members fields)
    primitive dynamic object map list .nil
    (fun name _ _ _ _ first _ ih hrest => .cons name ⟨first, ih⟩ hrest) v t h

-- ======================================================== derived nodes

section Nodes

variable {P : Descriptor → Prop}

/-- What holds of a node without children holds of all its nodes. -/
theorem forall_inside_childless {t : Descriptor} (hchildren : t.children = []) (hnode : P t) :
    ∀ u, Inside u t → P u :=
  forall_inside_iff.2 ⟨hnode, fun _ hu => absurd (hchildren ▸ hu) List.not_mem_nil⟩

/-- What holds of an object node and of all nodes of what describes its fields holds of all its
nodes. -/
theorem forall_inside_object {R : Json → Descriptor → Prop}
    {members : List (String × Json)} {fields : List (String × Descriptor)}
    (h : Fields R members fields) (hnode : P (.object fields))
    (hR : ∀ v t, R v t → ∀ u, Inside u t → P u) : ∀ u, Inside u (.object fields) → P u := by
  refine forall_inside_iff.2 ⟨hnode, fun u hu => ?_⟩
  obtain ⟨f, hf, rfl⟩ := List.mem_map.1 hu
  obtain ⟨e, -, ht⟩ := h.of_mem f hf
  exact hR _ _ ht

/-- What holds of each kind of node that the constraint grammar has a rule for holds of all nodes
that it derives. -/
theorem Constrains.forall_inside (hprimitive : ∀ kind, P (.primitive kind))
    (hobject : ∀ fields, P (.object fields)) (hlist : ∀ element, P (.list (some element)))
    {v : Json} {t : Descriptor} (h : Constrains v t) : ∀ u, Inside u t → P u := by
  induction h using Constrains.induction with
  | keyValue _ _ hfields | object _ _ _ _ hfields =>
      exact forall_inside_object hfields (hobject _) fun _ _ h => h.elim fun _ ht => ht
  | primitive kind => exact forall_inside_childless rfl (hprimitive kind)
  | list _ _ _ ih => exact forall_inside_iff.2 ⟨hlist _, List.forall_mem_singleton.2 ih⟩

/-- So it does for the marker grammar, which has two rules more. -/
theorem Marks.forall_inside (hprimitive : ∀ kind, P (.primitive kind)) (hdynamic : P .dynamic)
    (hobject : ∀ fields, P (.object fields)) (hmap : ∀ element, P (.map (some element)))
    (hlist : ∀ element, P (.list (some element))) {v : Json} {t : Descriptor} (h : Marks v t) :
    ∀ u, Inside u t → P u := by
  induction h using Marks.induction with
  | primitive kind => exact forall_inside_childless rfl (hprimitive kind)
  | dynamic => exact forall_inside_childless rfl hdynamic
  | object _ _ _ hfields =>
      exact forall_inside_object hfields (hobject _) fun _ _ h => h.elim fun _ ht => ht
  | map _ _ _ ih => exact forall_inside_iff.2 ⟨hmap _, List.forall_mem_singleton.2 ih⟩
  | list _ _ _ ih => exact forall_inside_iff.2 ⟨hlist _, List.forall_mem_singleton.2 ih⟩

end Nodes

/-- The constraint grammar derives nothing that is left open. -/
theorem Constrains.explicit {v : Json} {t : Descriptor} (h : Constrains v t) : t.Explicit :=
  h.forall_inside (fun _ => ⟨nofun, nofun, nofun⟩) (fun _ => ⟨nofun, nofun, nofun⟩)
    fun _ => ⟨nofun, nofun, nofun⟩

/-- Nor does the marker grammar: it has a rule for what may be anything, and none for what could
not be made out. -/
theorem Marks.explicit {v : Json} {t : Descriptor} (h : Marks v t) : t.Explicit :=
  h.forall_inside (fun _ => ⟨nofun, nofun, nofun⟩) ⟨nofun, nofun, nofun⟩
    (fun _ => ⟨nofun, nofun, nofun⟩) (fun _ => ⟨nofun, nofun, nofun⟩)
    fun _ => ⟨nofun, nofun, nofun⟩

end ProviderLink.Descriptor
