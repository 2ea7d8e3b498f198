/-
The places of a value that a type has a say in, and what is wrong at one.
A place is reached by steps from the root, each into a member or an item
of which some type is asked (`Child`, `Reaches`). What is wrong at a place
is wrong there by itself (`Violates`): a value of another kind, or a
member that an object type does not name. A value is of a type if and
only if nothing is wrong at any of its places
(`inhabits_of_not_violates`, `Inhabits.not_violates`).

A check goes through the places in order, a value before what is inside
it, members by name and items by index. That is the lexicographic order
of the steps, in which a way comes before its continuations; so there is
one first violation at most (`FirstViolation.unique`), and what lies
before it, other than around it, is of its type to the last place
(`FirstViolation.inhabits`).
-/
import ProviderLink.Proofs.Value.Normal

namespace ProviderLink

-- ================================================================ steps

namespace Path

/-- One step down into a value. -/
inductive Step
  | member (name : String)
  | item (index : Nat)

namespace Step

/-- Members come by name, items by index. -/
inductive Before : Step → Step → Prop
  | member {j k : String} (h : j < k) : Before (.member j) (.member k)
  | item {i j : Nat} (h : i < j) : Before (.item i) (.item j)

/-- A step as messages show it. -/
def text : Step → String
  | member name => "." ++ name
  | item index => "[" ++ toString index ++ "]"

theorem trichotomy_member (j k : String) :
    (member j).Before (member k) ∨ member j = member k ∨ (member k).Before (member j) := by
  rcases Std.lt_trichotomy j k with h | rfl | h
  · exact Or.inl (.member h)
  · exact Or.inr (Or.inl rfl)
  · exact Or.inr (Or.inr (.member h))

theorem trichotomy_item (i j : Nat) :
    (item i).Before (item j) ∨ item i = item j ∨ (item j).Before (item i) := by
  rcases Nat.lt_trichotomy i j with h | rfl | h
  · exact Or.inl (.item h)
  · exact Or.inr (Or.inl rfl)
  · exact Or.inr (Or.inr (.item h))

end Step

/-- A way is earlier than another that continues it, and than one from which it parts by an earlier
step. -/
abbrev Earlier : List Step → List Step → Prop := List.Lex Step.Before

/-- A way that is earlier than another and not continued by it stays earlier however it goes on. -/
theorem Earlier.append {as bs : List Step} (h : Earlier as bs) (cs : List Step) :
    ¬as <+: bs → Earlier (as ++ cs) bs := by
  induction h with
  | nil => exact fun haside => absurd (List.nil_prefix ..) haside
  | rel h => exact fun _ => .rel h
  | cons _ ih => exact fun haside => .cons (ih fun h => haside (List.cons_prefix_cons.2 ⟨rfl, h⟩))

/-- The steps of a way, the first from the root. -/
def steps : Path → List Step
  | root => []
  | member p name => p.steps ++ [.member name]
  | item p index => p.steps ++ [.item index]

end Path

namespace ValueType

-- =============================================================== places

/-- One step into a value leads to a value of which some type is asked. -/
inductive Child : ValueType → Json → Path.Step → ValueType → Json → Prop
  | field {fields : List (String × ValueType)} {members : List (String × Json)} {name : String}
      {type : ValueType} {v : Json} (asked : Dict.get? name fields = some type)
      (there : Dict.get? name members = some v) :
      Child (.object fields) (.object members) (.member name) type v
  | member {element : ValueType} {members : List (String × Json)} {name : String} {v : Json}
      (there : Dict.get? name members = some v) :
      Child (.map element) (.object members) (.member name) element v
  | item {element : ValueType} {items : List Json} {index : Nat} {v : Json}
      (there : items[index]? = some v) :
      Child (.list element) (.array items) (.item index) element v

/-- So do any number of steps. -/
inductive Reaches : ValueType → Json → List Path.Step → ValueType → Json → Prop
  | here (type : ValueType) (v : Json) : Reaches type v [] type v
  | step {type t u : ValueType} {v w x : Json} {step : Path.Step} {steps : List Path.Step}
      (child : Child type v step t w) (rest : Reaches t w steps u x) :
      Reaches type v (step :: steps) u x

variable {type t t' : ValueType} {v w w' : Json} {step step' : Path.Step}
  {steps steps' : List Path.Step}

theorem Child.unique (h : Child type v step t w) (h' : Child type v step t' w') :
    t = t' ∧ w = w' := by
  cases h with
  | field asked there =>
      cases h' with
      | field asked' there' =>
          exact ⟨Option.some.inj (asked.symm.trans asked'),
            Option.some.inj (there.symm.trans there')⟩
  | member there =>
      cases h' with
      | member there' => exact ⟨rfl, Option.some.inj (there.symm.trans there')⟩
  | item there =>
      cases h' with
      | item there' => exact ⟨rfl, Option.some.inj (there.symm.trans there')⟩

/-- Of two steps into the same value one is before the other, or they are the same. -/
theorem Child.trichotomy (h : Child type v step t w) (h' : Child type v step' t' w') :
    step.Before step' ∨ step = step' ∨ step'.Before step := by
  cases h with
  | field | member =>
      cases h'
      exact Path.Step.trichotomy_member ..
  | item =>
      cases h'
      exact Path.Step.trichotomy_item ..

theorem Reaches.unique (h : Reaches type v steps t w) : Reaches type v steps t' w' →
    t = t' ∧ w = w' := by
  induction h with
  | here =>
      intro h'
      cases h'
      exact ⟨rfl, rfl⟩
  | step child _ ih =>
      intro h'
      cases h' with
      | step child' rest' =>
          obtain ⟨rfl, rfl⟩ := child.unique child'
          exact ih rest'

/-- Of two places of the same value one is before the other, or they are the same. -/
theorem Reaches.trichotomy (h : Reaches type v steps t w) : ∀ {steps' t' w'},
    Reaches type v steps' t' w' → Path.Earlier steps steps' ∨ steps = steps'
      ∨ Path.Earlier steps' steps := by
  induction h with
  | here =>
      intro steps' t' w' h'
      cases h' with
      | here => exact Or.inr (Or.inl rfl)
      | step => exact Or.inl .nil
  | step child _ ih =>
      intro steps' t' w' h'
      cases h' with
      | here => exact Or.inr (Or.inr .nil)
      | step child' rest' =>
          rcases child.trichotomy child' with h | rfl | h
          · exact Or.inl (.rel h)
          · obtain ⟨rfl, rfl⟩ := child.unique child'
            exact (ih rest').imp .cons (.imp (congrArg _) .cons)
          · exact Or.inr (Or.inr (.rel h))

/-- What is reached in two goes. -/
theorem reaches_append : Reaches type v (steps ++ steps') t w ↔
    ∃ u x, Reaches type v steps u x ∧ Reaches u x steps' t w := by
  induction steps generalizing type v with
  | nil =>
      constructor
      · exact fun h => ⟨type, v, .here .., h⟩
      · rintro ⟨u, x, hhere, h⟩
        cases hhere
        exact h
  | cons step steps ih =>
      constructor
      · intro h
        cases h with
        | step child rest =>
            obtain ⟨u, x, hfirst, hthen⟩ := ih.1 rest
            exact ⟨u, x, .step child hfirst, hthen⟩
      · rintro ⟨u, x, hfirst, hthen⟩
        cases hfirst with
        | step child rest => exact .step child (ih.2 ⟨u, x, rest, hthen⟩)

theorem Reaches.last (h : Reaches type v (steps ++ [step]) t w) :
    ∃ u x, Reaches type v steps u x ∧ Child u x step t w := by
  obtain ⟨u, x, hfirst, hlast⟩ := reaches_append.1 h
  cases hlast with
  | step child rest =>
      cases rest
      exact ⟨u, x, hfirst, child⟩

/-- The value at a place is what the way there leads to. -/
theorem Reaches.resolve {p : Path} : ∀ {t w}, Reaches type v p.steps t w →
    p.resolve v = some w := by
  induction p with
  | root =>
      intro t w h
      cases h
      rfl
  | member p name ih =>
      intro t w h
      obtain ⟨u, x, hfirst, hlast⟩ := h.last
      rw [Path.resolve, ih hfirst]
      cases hlast with
      | field _ there => exact there
      | member there => exact there
  | item p index ih =>
      intro t w h
      obtain ⟨u, x, hfirst, hlast⟩ := h.last
      rw [Path.resolve, ih hfirst]
      cases hlast with
      | item there => exact there

theorem orderedFields_iff {fields : List (String × ValueType)} :
    OrderedFields fields ↔ ∀ e ∈ fields, e.2.Ordered := by
  induction fields with
  | nil => simp [OrderedFields]
  | cons e fields ih =>
      obtain ⟨name, type⟩ := e
      rw [OrderedFields, ih, List.forall_mem_cons]

/-- A step leads from ordered to ordered. -/
theorem Child.ordered (h : Child type v step t w) (htype : type.Ordered) (hv : v.Ordered) :
    t.Ordered ∧ w.Ordered := by
  cases h with
  | field asked there =>
      rw [Ordered] at htype
      rw [Json.Ordered] at hv
      exact ⟨orderedFields_iff.1 htype.2 _ (Dict.mem_of_get? asked),
        Json.orderedMembers_iff.1 hv.2 _ (Dict.mem_of_get? there)⟩
  | member there =>
      rw [Json.Ordered] at hv
      exact ⟨htype, Json.orderedMembers_iff.1 hv.2 _ (Dict.mem_of_get? there)⟩
  | item there =>
      rw [Json.Ordered] at hv
      exact ⟨htype, Json.orderedItems_iff.1 hv _ (List.mem_of_getElem? there)⟩

theorem Reaches.ordered (h : Reaches type v steps t w) : type.Ordered → v.Ordered →
    t.Ordered ∧ w.Ordered := by
  induction h with
  | here => exact fun htype hv => ⟨htype, hv⟩
  | step child _ ih =>
      intro htype hv
      obtain ⟨ht, hw⟩ := child.ordered htype hv
      exact ih ht hw

-- ========================================================== violations

/-- The value is of the kind that the type asks for, whatever is inside it. -/
inductive OfKind : ValueType → Json → Prop
  | null (type : ValueType) : OfKind type .null
  | nil (v : Json) : OfKind .nil v
  | string (s : String) : OfKind .string (.string s)
  | number (n : Number) : OfKind .number (.number n)
  | bool (b : Bool) : OfKind .bool (.bool b)
  | object (fields : List (String × ValueType)) (members : List (String × Json)) :
      OfKind (.object fields) (.object members)
  | map (element : ValueType) (members : List (String × Json)) :
      OfKind (.map element) (.object members)
  | list (element : ValueType) (items : List Json) : OfKind (.list element) (.array items)

/-- What is wrong with a value under a type, apart from what is wrong inside it. -/
inductive Violates : ValueType → Json → Violation → Prop
  | unexpectedAttribute {fields : List (String × ValueType)} {members : List (String × Json)}
      {name : String} (there : Dict.has name members) (unnamed : ¬Dict.has name fields)
      (smallest : ∀ k, Dict.has k members → ¬Dict.has k fields → name ≤ k) :
      Violates (.object fields) (.object members) (.unexpectedAttribute name)
  | wrongKind {type : ValueType} {v : Json} (h : ¬type.OfKind v) :
      Violates type v (.wrongKind type v)

theorem Violates.unique {a b : Violation} (h : Violates type v a) (h' : Violates type v b) :
    a = b := by
  cases h with
  | unexpectedAttribute there unnamed smallest =>
      cases h' with
      | unexpectedAttribute there' unnamed' smallest' =>
          exact congrArg _ (String.le_antisymm (smallest _ there' unnamed')
            (smallest' _ there unnamed))
      | wrongKind h => exact absurd (.object ..) h
  | wrongKind h =>
      cases h' with
      | unexpectedAttribute => exact absurd (.object ..) h
      | wrongKind => rfl

theorem Inhabits.ofKind (h : type.Inhabits v) : type.OfKind v := by
  cases h <;> constructor

/-- Nothing is wrong with a value of the type. -/
theorem Inhabits.not_violates (h : type.Inhabits v) (a : Violation) : ¬Violates type v a := by
  intro hviolates
  cases hviolates with
  | unexpectedAttribute there unnamed =>
      cases h with
      | object named =>
          obtain ⟨v, hv⟩ := Dict.has_iff.1 there
          exact unnamed (named _ v hv)
  | wrongKind hkind => exact hkind h.ofKind

/-- Nor with anything inside it. -/
theorem Inhabits.child (h : type.Inhabits v) (hchild : Child type v step t w) : t.Inhabits w := by
  cases hchild with
  | field asked there =>
      cases h with
      | object _ fits => exact fits _ _ _ there asked
  | member there =>
      cases h with
      | map fits => exact fits _ _ there
  | item there =>
      cases h with
      | list fits => exact fits _ (List.mem_of_getElem? there)

theorem Inhabits.reaches (hreaches : Reaches type v steps t w) : type.Inhabits v →
    t.Inhabits w := by
  induction hreaches with
  | here => exact id
  | step child _ ih => exact fun h => ih (h.child child)

/-- What is wrong at a place, if nothing is wrong at any place before it. -/
structure FirstViolation (type : ValueType) (v : Json) (steps : List Path.Step)
    (violation : Violation) : Prop where
  violated : ∃ t w, Reaches type v steps t w ∧ Violates t w violation
  earlier : ∀ {steps' t w}, Path.Earlier steps' steps → Reaches type v steps' t w →
    ∀ a, ¬Violates t w a

namespace FirstViolation

variable {violation violation' : Violation}

/-- There is one first violation at most. -/
theorem unique (h : FirstViolation type v steps violation)
    (h' : FirstViolation type v steps' violation') : steps = steps' ∧ violation = violation' := by
  obtain ⟨t, w, hreaches, hviolates⟩ := h.violated
  obtain ⟨t', w', hreaches', hviolates'⟩ := h'.violated
  rcases hreaches.trichotomy hreaches' with hlt | rfl | hlt
  · exact absurd hviolates (h'.earlier hlt hreaches _)
  · obtain ⟨rfl, rfl⟩ := hreaches.unique hreaches'
    exact ⟨rfl, hviolates.unique hviolates'⟩
  · exact absurd hviolates' (h.earlier hlt hreaches' _)

/-- What is wrong with a value by itself comes first. -/
theorem here (h : Violates type v violation) : FirstViolation type v [] violation :=
  ⟨⟨type, v, .here .., h⟩, fun hlt => nomatch hlt⟩

/-- What comes first inside a value is the first of all, if nothing is wrong with the value by
itself and all that is inside it before is of its type. -/
theorem inside (hnone : ∀ a, ¬Violates type v a) (hchild : Child type v step t w)
    (hbefore : ∀ step' t' w', step'.Before step → Child type v step' t' w' → t'.Inhabits w')
    (h : FirstViolation t w steps violation) :
    FirstViolation type v (step :: steps) violation := by
  obtain ⟨u, x, hreaches, hviolates⟩ := h.violated
  refine ⟨⟨u, x, .step hchild hreaches, hviolates⟩, fun hlt hreaches' => ?_⟩
  cases hreaches' with
  | here => exact hnone
  | step child rest =>
      cases hlt with
      | rel hstep => exact (Inhabits.reaches rest (hbefore _ _ _ hstep child)).not_violates
      | cons hlt =>
          obtain ⟨rfl, rfl⟩ := hchild.unique child
          exact h.earlier hlt rest

end FirstViolation

end ValueType

end ProviderLink
