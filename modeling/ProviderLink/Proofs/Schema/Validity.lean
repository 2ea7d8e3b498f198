/-
What a valid schema is. Validation goes through the entries in order and
carries the path of the schema they stand in, for its message; whether it
passes depends on neither (`validateAt_eq_ok`). A schema is valid if all
of its entries are, each by itself, and the schemas of its blocks are
valid in turn. So a schema put together from valid ones is valid wherever
it puts them.
-/
import ProviderLink.Proofs.Schema.Satisfies
import ProviderLink.Schema.Validity

namespace ProviderLink.ObjectSchema

/-- An entry may stand under a key: it has a name, and that is the key. -/
def Named (key name : String) : Prop := Text.allBlank name = false ∧ key = name

/-- The schema and all that stand in it are valid. -/
inductive Valid : ObjectSchema → Prop
  | entries {s : ObjectSchema}
    (attributes : ∀ e ∈ s.attributes, Named e.1 e.2.name ∧ e.2.type.containsInvalid = false)
    (blocks : ∀ e ∈ s.blocks, Named e.1 e.2.name ∧ Dict.has e.1 s.attributes = false)
    (nested : ∀ e ∈ s.blocks, Valid e.2.nested) : Valid s

theorem validateName_eq_ok {path : Path} {key name : String} :
    validateName path key name = .ok () ↔ Named key name := by
  unfold validateName Named
  split
  case isTrue hblank => exact iff_of_false nofun fun h => nomatch hblank.symm.trans h.1
  case isFalse hblank =>
    rw [and_iff_right (Bool.not_eq_true _ ▸ hblank)]
    split
    case isTrue hne => exact iff_of_false nofun hne
    case isFalse heq => exact iff_of_true rfl (Decidable.not_not.1 heq)

theorem validateAttributes_eq_ok {path : Path} {attributes : List (String × AttrSchema)} :
    validateAttributes path attributes = .ok () ↔
      ∀ e ∈ attributes, Named e.1 e.2.name ∧ e.2.type.containsInvalid = false := by
  induction attributes with
  | nil => simp [validateAttributes]
  | cons e attributes ih =>
      obtain ⟨key, a⟩ := e
      rw [validateAttributes, check_bind_eq_ok, validateName_eq_ok, List.forall_mem_cons, ← ih]
      cases a.type.containsInvalid with
      | true =>
          refine iff_of_false (fun h => ?_) fun h => ?_
          · cases h.2
          · cases h.1.2
      | false => simp

theorem validateBlocks_eq_ok {path : Path} {attributes : List (String × AttrSchema)}
    {blocks : List (String × BlockSchema)} :
    validateBlocks path attributes blocks = .ok () ↔
      ∀ e ∈ blocks, (Named e.1 e.2.name ∧ Dict.has e.1 attributes = false)
        ∧ validateAt (path.member e.1) e.2.nested = .ok () := by
  induction blocks with
  | nil => simp [validateBlocks]
  | cons e blocks ih =>
      obtain ⟨key, name, nested, required⟩ := e
      rw [validateBlocks, check_bind_eq_ok, validateName_eq_ok, List.forall_mem_cons, ← ih]
      cases Dict.has key attributes with
      | true =>
          refine iff_of_false (fun h => ?_) fun h => ?_
          · cases h.2
          · cases h.1.1.2
      | false => simp [check_bind_eq_ok, and_assoc]

/-- Validation passes valid schemas, wherever they stand. -/
theorem validateAt_eq_ok (s : ObjectSchema) :
    ∀ {path : Path}, validateAt path s = .ok () ↔ s.Valid := by
  induction s using nested_induction with
  | step s ih =>
      intro path
      have hsteps : validateAt path s = .ok () ↔
          validateAttributes path s.attributes = .ok ()
            ∧ validateBlocks path s.attributes s.blocks = .ok () := by
        obtain ⟨attributes, blocks⟩ := s
        rw [validateAt]
        exact check_bind_eq_ok
      rw [hsteps, validateAttributes_eq_ok, validateBlocks_eq_ok]
      constructor
      · rintro ⟨hattributes, hblocks⟩
        exact .entries hattributes (fun e he => (hblocks e he).1)
          fun e he => (ih e he).1 (hblocks e he).2
      · intro h
        cases h with
        | entries hattributes hblocks hnested =>
            exact ⟨hattributes, fun e he => ⟨hblocks e he, (ih e he).2 (hnested e he)⟩⟩

theorem validate_eq_ok {s : ObjectSchema} : s.validate = .ok () ↔ s.Valid :=
  s.validateAt_eq_ok

end ProviderLink.ObjectSchema
