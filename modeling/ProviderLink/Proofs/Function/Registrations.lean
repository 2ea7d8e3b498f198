/-
What any run of registrations leaves in a registry. A registration is
accepted or answered with a fault, and what the registry holds in the end
is exactly what was accepted on the way (`holds_build`): a fault leaves no
trace, and nothing that was accepted is put away again.

Both kinds of functions follow one argument. A registration names a
function of a kind, a registry holds it or does not (`Holds`), and one step
adds at most the registration itself (`holds_register`). That a second
registration of a name has no chance is the side condition of the step
(`holds_put`): to put in a name that is not taken forgets nothing.
-/
import ProviderLink.Proofs.Descriptor.Explicit
import ProviderLink.Proofs.Function.Triggers
import ProviderLink.Proofs.Text.Blank

namespace ProviderLink

variable {m : Type → Type}

namespace Registration

/-- The kind of function that is registered. -/
def kind : Registration m → FunctionKind
  | .action .. => .action
  | .trigger .. => .trigger

/-- The name that it is registered under. -/
def name : Registration m → String
  | .action name _ => name
  | .trigger key _ => key

/-- What it declares. -/
def function : Registration m → Function
  | .action _ a => a.toFunction
  | .trigger _ t => t

end Registration

namespace Registry

-- ============================================================ one answer

/-- What a registration is answered with. -/
def answer (r : Registry m) : Registration m → Except RegistrationFault Unit
  | .action name a => (r.registerAction name a).map fun _ => ()
  | .trigger key t => (r.registerTrigger key t).map fun _ => ()

/-- A function of this kind has the name. -/
def taken (r : Registry m) : FunctionKind → String → Bool
  | .action, name => Dict.has name r.actions
  | .trigger, key => Dict.has key r.triggers

/-- The registry with what is registered in its place. -/
def put (r : Registry m) : Registration m → Registry m
  | .action name a => { r with actions := Dict.insert name a r.actions }
  | .trigger key t => { r with triggers := Dict.insert key t r.triggers }

/-- A lookup of the name finds what is registered. -/
def Holds (r : Registry m) : Registration m → Prop
  | .action name a => Dict.get? name r.actions = some a
  | .trigger key t => Dict.get? key r.triggers = some t

/-- The answer depends on the function and on whether the name is taken. -/
theorem answer_eq (r : Registry m) (x : Registration m) :
    r.answer x = x.function.mayRegister x.kind x.name (r.taken x.kind x.name) := by
  cases x with
  | action name a =>
      change (r.registerAction name a).map _ = a.mayRegister .action name (Dict.has name r.actions)
      rw [registerAction]
      cases a.mayRegister .action name (Dict.has name r.actions) <;> rfl
  | trigger key t =>
      change (r.registerTrigger key t).map _ = t.mayRegister .trigger key (Dict.has key r.triggers)
      rw [registerTrigger]
      cases t.mayRegister .trigger key (Dict.has key r.triggers) <;> rfl

/-- What is registered goes in its place, where the answer is no fault. -/
theorem register_eq (r : Registry m) (x : Registration m) :
    r.register x = ((r.answer x).map fun _ => r.put x).toOption.getD r := by
  cases x with
  | action name a =>
      rw [register, answer, registerAction]
      cases a.mayRegister .action name (Dict.has name r.actions) <;> rfl
  | trigger key t =>
      rw [register, answer, registerTrigger]
      cases t.mayRegister .trigger key (Dict.has key r.triggers) <;> rfl

theorem register_of_ok {r : Registry m} {x : Registration m} (h : r.answer x = .ok ()) :
    r.register x = r.put x := by
  rw [register_eq, h]
  rfl

/-- A fault leaves the registry as it is. -/
theorem register_of_error {r : Registry m} {x : Registration m} {fault : RegistrationFault}
    (h : r.answer x = .error fault) : r.register x = r := by
  rw [register_eq, h]
  rfl

-- ================================================================= names

theorem mem_actionNames {r : Registry m} {name : String} :
    name ∈ r.actionNames ↔ ∃ a, r.Holds (.action name a) :=
  Dict.mem_keys

/-- A name is not taken if nothing of its kind that the registry holds has it. -/
theorem taken_eq_false {r : Registry m} {kind : FunctionKind} {name : String} :
    r.taken kind name = false ↔ ∀ y, r.Holds y → y.kind = kind → y.name ≠ name := by
  rw [← Bool.not_eq_true]
  cases kind with
  | action =>
      rw [taken, Dict.has_iff_mem_keys]
      constructor
      · rintro hfree (⟨name', a⟩ | ⟨key, t⟩) hy hkind rfl
        · exact hfree (Dict.mem_keys.2 ⟨a, hy⟩)
        · cases hkind
      · intro hfree hmem
        obtain ⟨a, ha⟩ := Dict.mem_keys.1 hmem
        exact hfree (.action name a) ha rfl rfl
  | trigger =>
      rw [taken, Dict.has_iff_mem_keys]
      constructor
      · rintro hfree (⟨name', a⟩ | ⟨key, t⟩) hy hkind rfl
        · cases hkind
        · exact hfree (Dict.mem_keys.2 ⟨t, hy⟩)
      · intro hfree hmem
        obtain ⟨t, ht⟩ := Dict.mem_keys.1 hmem
        exact hfree (.trigger name t) ht rfl rfl

-- ============================================================== one step

/-- To put in a name that is not taken adds the registration and forgets none. -/
theorem holds_put {r : Registry m} {x y : Registration m}
    (h : r.taken x.kind x.name = false) : (r.put x).Holds y ↔ r.Holds y ∨ y = x := by
  cases x with
  | action name a =>
      cases y with
      | action name' a' =>
          rw [Registration.action.injEq]
          exact Dict.get?_insert_eq_some h
      | trigger key' t' => exact (or_iff_left nofun).symm
  | trigger key t =>
      cases y with
      | action name' a' => exact (or_iff_left nofun).symm
      | trigger key' t' =>
          rw [Registration.trigger.injEq]
          exact Dict.get?_insert_eq_some h

/-- A registration adds itself, if it is accepted, and nothing else. -/
theorem holds_register {r : Registry m} {x y : Registration m} :
    (r.register x).Holds y ↔ r.Holds y ∨ y = x ∧ r.answer x = .ok () := by
  cases hanswer : r.answer x with
  | error fault =>
      rw [register_of_error hanswer]
      exact (or_iff_left fun h => nomatch h.2).symm
  | ok =>
      have hfree : r.taken x.kind x.name = false := by
        rw [answer_eq] at hanswer
        exact (Function.mayRegister_eq_ok.1 hanswer).2.2.1
      rw [register_of_ok hanswer, holds_put hfree]
      exact or_congr_right (and_iff_left rfl).symm

theorem sorted_actions_register {r : Registry m} (h : Dict.Sorted r.actions)
    (x : Registration m) : Dict.Sorted (r.register x).actions := by
  cases hanswer : r.answer x with
  | error fault =>
      rw [register_of_error hanswer]
      exact h
  | ok =>
      rw [register_of_ok hanswer]
      cases x with
      | action name a => exact Dict.sorted_insert name a h
      | trigger key t => exact h

-- ============================================================= whole runs

/-- One of the calls was the registration, and it was accepted where it stood. -/
def Accepted (calls : List (Registration m)) (x : Registration m) : Prop :=
  ∃ before after, calls = before ++ x :: after ∧ (build before).answer x = .ok ()

theorem build_concat (calls : List (Registration m)) (x : Registration m) :
    build (calls ++ [x]) = (build calls).register x :=
  List.foldl_append

theorem not_accepted_nil (x : Registration m) : ¬Accepted [] x := by
  rintro ⟨before, after, hcalls, -⟩
  simp at hcalls

/-- One more call accepts itself or nothing. -/
theorem accepted_concat {calls : List (Registration m)} {x y : Registration m} :
    Accepted (calls ++ [x]) y ↔ Accepted calls y ∨ y = x ∧ (build calls).answer x = .ok () := by
  constructor
  · rintro ⟨before, after, hcalls, hanswer⟩
    cases after using List.reverseRecOn with
    | nil =>
        obtain ⟨rfl, hx⟩ := List.append_inj' hcalls rfl
        cases hx
        exact .inr ⟨rfl, hanswer⟩
    | append_singleton after z =>
        rw [← List.cons_append, ← List.append_assoc] at hcalls
        exact .inl ⟨before, after, (List.append_inj' hcalls rfl).1, hanswer⟩
  · rintro (⟨before, after, rfl, hanswer⟩ | ⟨rfl, hanswer⟩)
    · exact ⟨before, after ++ [x], by rw [List.append_assoc, List.cons_append], hanswer⟩
    · exact ⟨calls, [], rfl, hanswer⟩

/-- A registry that was built holds what was accepted. -/
theorem holds_build (calls : List (Registration m)) (x : Registration m) :
    (build calls).Holds x ↔ Accepted calls x := by
  -- the induction is on the last call: an acceptance speaks of the calls before it
  induction calls using List.reverseRecOn with
  | nil =>
      refine iff_of_false (fun h => ?_) (not_accepted_nil x)
      cases x with
      | action => cases h
      | trigger => cases h
  | append_singleton calls call ih => rw [build_concat, holds_register, accepted_concat, ih]

theorem sorted_actions_build (calls : List (Registration m)) :
    Dict.Sorted (build calls).actions := by
  induction calls using List.reverseRecOn with
  | nil => exact .nil
  | append_singleton calls call ih =>
      rw [build_concat]
      exact sorted_actions_register ih call

/-- What is registered after these calls has a name with a blank at neither end, which no function
of its kind was accepted under, a schema that is valid and a type without an invalid node. -/
structure Admits (calls : List (Registration m)) (x : Registration m) : Prop where
  named : x.name ≠ ""
  ends : Text.EndsUnblank x.name.toList
  free : ∀ y, Accepted calls y → y.kind = x.kind → y.name ≠ x.name
  schema : ∃ schema, x.function.configurationSchema = .ok schema ∧ schema.validate = .ok ()
  type : ∃ type, x.function.outputType = .ok type ∧ ¬Descriptor.Inside .invalid type

theorem answer_build_eq_ok {calls : List (Registration m)} {x : Registration m} :
    (build calls).answer x = .ok () ↔ Admits calls x := by
  have hfree : (build calls).taken x.kind x.name = false ↔
      ∀ y, Accepted calls y → y.kind = x.kind → y.name ≠ x.name := by
    simp only [taken_eq_false, holds_build]
  rw [answer_eq, Function.mayRegister_eq_ok, hfree, Function.validate_eq_ok, ← and_assoc,
    Text.isTrimmed_iff]
  simp only [Descriptor.containsInvalid_eq_false]
  constructor
  · rintro ⟨⟨hnamed, hends⟩, hfree, hschema, htype⟩
    exact ⟨hnamed, hends, hfree, hschema, htype⟩
  · rintro ⟨hnamed, hends, hfree, hschema, htype⟩
    exact ⟨⟨hnamed, hends⟩, hfree, hschema, htype⟩

-- =============================================================== lookups

theorem action_eq_ok {r : Registry m} {name : String} {a : Action m} :
    r.action name = .ok a ↔ Dict.get? name r.actions = some a := by
  unfold Registry.action
  cases Dict.get? name r.actions with
  | none => exact iff_of_false nofun nofun
  | some other => simp

/-- Whatever is asked of an action that the registry does not hold, its name is unknown. -/
structure ActionUnknown (r : Registry m) (name : String) : Prop where
  action : r.action name = .error (.unknownAction name)
  configurationSchema : r.actionConfigurationSchema name = .error (.unknownAction name)
  outputType : r.actionOutputType name = .error (.unknownAction name)
  evaluate : ∀ [Monad m] contextId input,
    r.evaluateAction contextId name input = pure (.error (.unknownAction name))

/-- Whatever is asked of a trigger that the registry does not hold, its key is unknown. -/
structure TriggerUnknown (r : Registry m) (key : String) : Prop where
  trigger : r.trigger key = .error (.unknownTrigger key)
  outputType : r.triggerOutputType key = .error (.unknownTrigger key)

theorem actionUnknown_of_not_holds {r : Registry m} {name : String}
    (h : ∀ a, ¬r.Holds (.action name a)) : r.ActionUnknown name := by
  have hnone : Dict.get? name r.actions = none := Option.eq_none_iff_forall_ne_some.2 h
  have haction : r.action name = .error (.unknownAction name) := by rw [action, hnone]
  exact {
    action := haction
    configurationSchema := by
      rw [actionConfigurationSchema, haction]
      rfl
    outputType := by
      rw [actionOutputType, haction]
      rfl
    evaluate := evaluateAction_of_none hnone }

theorem triggerUnknown_of_not_holds {r : Registry m} {key : String}
    (h : ∀ t, ¬r.Holds (.trigger key t)) : r.TriggerUnknown key := by
  have hnone : Dict.get? key r.triggers = none := Option.eq_none_iff_forall_ne_some.2 h
  have htrigger : r.trigger key = .error (.unknownTrigger key) := by rw [trigger, hnone]
  refine ⟨htrigger, ?_⟩
  rw [triggerOutputType, htrigger]
  rfl

/-- Whatever registrations were called for, in whatever order and with
whatever names and functions: the next one is accepted exactly if it is
admitted, and otherwise changes nothing; what is looked up under a name is
what was accepted under it; the names of each kind are those that were
accepted, in order and each once; and any other name is unknown. -/
theorem build_registers (calls : List (Registration m)) :
    (∀ x, ((build calls).answer x = .ok () ↔ Admits calls x) ∧
      ∀ fault, (build calls).answer x = .error fault → (build calls).register x = build calls) ∧
    ((∀ name a, (build calls).action name = .ok a ↔ Accepted calls (.action name a)) ∧
      ∀ key t, (build calls).trigger key = .ok t ↔ Accepted calls (.trigger key t)) ∧
    ((build calls).actionNames.Pairwise (· < ·) ∧
      ∀ name, name ∈ (build calls).actionNames ↔ ∃ a, Accepted calls (.action name a)) ∧
    ((build calls).triggerKeyNames.Pairwise (· < ·) ∧
      ∀ key, key ∈ (build calls).triggerKeyNames ↔ ∃ t, Accepted calls (.trigger key t)) ∧
    (∀ name, (∀ a, ¬Accepted calls (.action name a)) → (build calls).ActionUnknown name) ∧
    ∀ key, (∀ t, ¬Accepted calls (.trigger key t)) → (build calls).TriggerUnknown key := by
  simp only [← holds_build]
  refine ⟨fun x => ⟨answer_build_eq_ok, fun fault => register_of_error⟩,
    ⟨fun name a => action_eq_ok, fun key t => trigger_eq_ok⟩, ⟨?_, fun name => mem_actionNames⟩,
    ⟨?_, fun key => mem_triggerKeyNames⟩, fun name => actionUnknown_of_not_holds,
    fun key => triggerUnknown_of_not_holds⟩
  · exact Dict.sorted_iff_keys.1 (sorted_actions_build calls)
  · exact Dict.sorted_iff_keys.1 (registered_build calls).sorted

end Registry

namespace Demo

/-- Another action, which returns its input. -/
def echo : Action Id := { double with evaluate := fun _ input => Except.ok input }

theorem build_registers_demo :
    Registry.Accepted registrations (.action "double" double) ∧
      (Registry.build registrations).answer (.action "double" echo)
        = .error (.duplicate .action "double") ∧
      (Registry.build registrations).register (.action "double" echo)
        = Registry.build registrations ∧
      (∀ a, ¬Registry.Accepted registrations (.action "triple" a)) ∧
      (Registry.build registrations).ActionUnknown "triple" := by
  obtain ⟨hanswers, ⟨hactions, -⟩, -, -, hunknown, -⟩ := Registry.build_registers registrations
  have hdouble : Registry.Accepted registrations (.action "double" double) := by
    rw [← hactions, build_registrations]
    rfl
  have hagain : (Registry.build registrations).answer (.action "double" echo)
      = .error (.duplicate .action "double") := by
    rw [build_registrations, Registry.answer_eq]
    decide +kernel
  have htriple : ∀ a, ¬Registry.Accepted registrations (.action "triple" a) := by
    intro a haccepted
    rw [← hactions, build_registrations] at haccepted
    cases haccepted
  exact ⟨hdouble, hagain, (hanswers _).2 _ hagain, htriple, hunknown "triple" htriple⟩

end Demo

end ProviderLink
