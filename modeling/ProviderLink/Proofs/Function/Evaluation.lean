/-
What evaluating an action comes to, whatever the action does. An
evaluation either is due — an action of the name is registered and the
input reads as a value that satisfies the action's schema — and then the
action runs once, on that value with its nulls filled in; or it is
refused, and then nothing runs. What the action gave is held to the type
that it declares before it is delivered.

The runs are counted by registries whose actions note what they are
evaluated on (`Registry.watched`), in a state laid over the monad that
the actions run in; what the caller is told stays the same
(`fst_watched`). Five steps may fail, and the argument follows them:
the lookup, the schema and the reading of the input decide whether the
evaluation is due (`due_or_refuses`), and the action, its type and the
check against that make up what is delivered (`delivers_deliver`).

An action declares its schema and its type when it is evaluated, so the
main theorem is about any registry, with declarations that may fail. Of
registries that were built by registrations alone, `get?_build` says which
actions they have, and those had their declarations when they were
registered.
-/
import ProviderLink.Function.Registry
import ProviderLink.Proofs.Codec
import ProviderLink.Proofs.Provider.Demo
import ProviderLink.Proofs.Value.Normal

namespace ProviderLink

variable {m : Type → Type}

-- ======================================================= registrations

/-- A registration that is asked for. -/
inductive Registration (m : Type → Type)
  | action (name : String) (action : Action m)
  | trigger (key : String) (trigger : Function)

/-- The action that a registration has to offer under a name. -/
def Registration.offer? (name : String) : Registration m → Option (Action m)
  | .action key a =>
    if key = name ∧ (a.mayRegister .action name false).isOk then some a else none
  | .trigger .. => none

/-- Valid declarations are there: a valid schema, and a type without an invalid node. -/
theorem Function.validate_eq_ok {f : Function} :
    f.validate = .ok () ↔ (∃ schema, f.configurationSchema = .ok schema ∧
      schema.validate = .ok ()) ∧ ∃ type, f.outputType = .ok type ∧
        type.containsInvalid = false := by
  unfold validate
  cases f.configurationSchema with
  | error e => exact iff_of_false nofun fun ⟨⟨_, h, _⟩, _⟩ => nomatch h
  | ok schema =>
      cases f.outputType with
      | error e =>
          refine iff_of_false (fun h => ?_) fun ⟨_, _, h, _⟩ => nomatch h
          cases hflaw : schema.validate <;> simp only [bind, Except.bind, hflaw] at h <;> cases h
      | ok type =>
          cases hflaw : schema.validate with
          | error flaw => simp [bind, Except.bind, hflaw, throw, throwThe, MonadExceptOf.throw]
          | ok =>
              cases hinvalid : type.containsInvalid <;>
                simp [bind, Except.bind, hflaw, hinvalid, throw, throwThe, MonadExceptOf.throw,
                  pure, Except.pure]

/-- A function may be registered if it has a trimmed name that is not taken, and its declarations
are valid. -/
theorem Function.mayRegister_eq_ok {f : Function} {kind : FunctionKind} {name : String}
    {taken : Bool} :
    f.mayRegister kind name taken = .ok () ↔ Text.allBlank name = false ∧
      Text.isTrimmed name = true ∧ taken = false ∧ f.validate = .ok () := by
  unfold mayRegister
  cases Text.allBlank name with
  | true => exact iff_of_false nofun fun h => nomatch h.1
  | false =>
      cases Text.isTrimmed name with
      | false => exact iff_of_false nofun fun h => nomatch h.2.1
      | true =>
          cases taken with
          | true => exact iff_of_false nofun fun h => nomatch h.2.2.1
          | false =>
              cases f.validate with
              | ok => exact iff_of_true rfl ⟨rfl, rfl, rfl, rfl⟩
              | error cause => exact iff_of_false nofun fun h => nomatch h.2.2.2

theorem Function.mayRegister_of_taken {f : Function} {kind : FunctionKind} {name : String} :
    f.mayRegister kind name true ≠ .ok () :=
  fun h => nomatch (mayRegister_eq_ok.1 h).2.2.1

/-- What may be registered has its declarations. -/
theorem Function.declares_of_mayRegister {f : Function} {kind : FunctionKind} {name : String}
    {taken : Bool} (h : (f.mayRegister kind name taken).isOk) :
    (∃ schema, f.configurationSchema = .ok schema) ∧ ∃ type, f.outputType = .ok type := by
  obtain ⟨-, -, -, hvalid⟩ := mayRegister_eq_ok.1 (eq_ok_of_isOk h)
  obtain ⟨⟨schema, hschema, -⟩, type, htype, -⟩ := validate_eq_ok.1 hvalid
  exact ⟨⟨schema, hschema⟩, type, htype⟩

namespace Registry

/-- The registry after a registration, which leaves it as it is if there is a fault. -/
def register (r : Registry m) : Registration m → Registry m
  | .action name a => (r.registerAction name a).toOption.getD r
  | .trigger key t => (r.registerTrigger key t).toOption.getD r

/-- The registry after registrations in order. -/
def build (registrations : List (Registration m)) : Registry m :=
  registrations.foldl register .empty

/-- An action is put under a name that has none and may be registered. -/
theorem register_action (r : Registry m) (key : String) (a : Action m) :
    r.register (.action key a)
      = if Dict.has key r.actions = false ∧ (a.mayRegister .action key false).isOk then
          { r with actions := Dict.insert key a r.actions }
        else r := by
  rw [register, registerAction]
  cases htaken : Dict.has key r.actions with
  | true =>
      rw [if_neg (fun h => nomatch h.1)]
      cases hmay : a.mayRegister .action key true with
      | ok => exact absurd hmay Function.mayRegister_of_taken
      | error fault => rfl
  | false =>
      cases hmay : a.mayRegister .action key false with
      | ok =>
          rw [if_pos ⟨rfl, rfl⟩]
          rfl
      | error fault =>
          rw [if_neg (fun h => nomatch h.2)]
          rfl

/-- A registration adds what it offers under a name that has nothing. -/
theorem get?_register (r : Registry m) (registration : Registration m) (name : String) :
    Dict.get? name (r.register registration).actions
      = (Dict.get? name r.actions).or (registration.offer? name) := by
  cases registration with
  | trigger key t =>
      have hkept : (r.register (.trigger key t)).actions = r.actions := by
        rw [register, registerTrigger]
        cases t.mayRegister .trigger key (Dict.has key r.triggers) <;> rfl
      rw [hkept, Registration.offer?, Option.or_none]
  | action key a =>
      rw [register_action, Registration.offer?]
      by_cases hname : key = name
      · subst hname
        cases hfound : Dict.get? key r.actions with
        | some other =>
            rw [Dict.has, hfound, if_neg (fun h => Bool.false_ne_true h.1.symm), Option.some_or, hfound]
        | none =>
            rw [Dict.has, hfound, Option.none_or]
            by_cases hmay : (a.mayRegister .action key false).isOk
            · rw [if_pos ⟨rfl, hmay⟩, if_pos ⟨rfl, hmay⟩]
              exact Dict.get?_insert_self ..
            · rw [if_neg (fun h => hmay h.2), if_neg (fun h => hmay h.2), hfound]
      · have hoffer : (if key = name ∧ (a.mayRegister .action name false).isOk then some a
            else none) = none := if_neg fun h => hname h.1
        rw [hoffer, Option.or_none]
        split
        · exact Dict.get?_insert_of_ne (Ne.symm hname) ..
        · rfl

/-- The first offer of a name is what is registered. -/
theorem get?_build (registrations : List (Registration m)) (name : String) :
    Dict.get? name (build registrations).actions
      = registrations.findSome? (Registration.offer? name) := by
  have hrun : ∀ r : Registry m, Dict.get? name (registrations.foldl register r).actions
      = (Dict.get? name r.actions).or
          (registrations.findSome? (Registration.offer? name)) := by
    induction registrations with
    | nil => exact fun r => (Option.or_none ..).symm
    | cons registration rest ih =>
        intro r
        rw [List.foldl_cons, ih, get?_register, Option.or_assoc, List.findSome?_cons]
        cases registration.offer? name <;> rfl
  exact (hrun .empty).trans (Option.none_or ..)

theorem declares_of_build {registrations : List (Registration m)} {name : String}
    {action : Action m} (h : Dict.get? name (build registrations).actions = some action) :
    (∃ schema, action.configurationSchema = .ok schema) ∧
      ∃ type, action.outputType = .ok type := by
  rw [get?_build] at h
  obtain ⟨registration, -, hoffer⟩ := List.exists_of_findSome?_eq_some h
  cases registration with
  | trigger => cases hoffer
  | action key a =>
      rw [Registration.offer?] at hoffer
      split at hoffer
      case isTrue hmay =>
        cases hoffer
        exact Function.declares_of_mayRegister hmay.2
      case isFalse => cases hoffer

end Registry

-- ============================================================= watching

/-- One run of an action. -/
structure Evaluation where
  action : String
  contextId : String
  input : Json

/-- The action, noting what it is evaluated on. -/
def Action.watched [Monad m] (name : String) (a : Action m) :
    Action (StateT (List Evaluation) m) where
  toFunction := a.toFunction
  evaluate contextId input := do
    modify (· ++ [⟨name, contextId, input⟩])
    a.evaluate contextId input

/-- The registry with every action watched. -/
def Registry.watched [Monad m] (r : Registry m) : Registry (StateT (List Evaluation) m) :=
  ⟨r.actions.map fun e => (e.1, e.2.watched e.1), r.triggers⟩

namespace Registry

-- ======================================================= due or refused

/-- An evaluation of an action on a value is due. -/
def Due (r : Registry m) (name : String) (input : Bytes) (action : Action m) (v : Json) : Prop :=
  Dict.get? name r.actions = some action ∧
    ∃ schema raw, action.configurationSchema = .ok schema ∧
      Json.ofBytes? input = some raw ∧ schema.Satisfies raw ∧ v = schema.fill raw

/-- Why no evaluation is due, and what the caller is told. -/
inductive Refuses (r : Registry m) (name : String) (input : Bytes) : ProviderError → Prop
  | unknown (unregistered : Dict.get? name r.actions = none) :
      Refuses r name input (.unknownAction name)
  | undeclared {action : Action m} {e : ProviderError}
      (registered : Dict.get? name r.actions = some action)
      (fails : action.configurationSchema = .error e) : Refuses r name input e
  | misfit {action : Action m} {schema : ObjectSchema}
      (registered : Dict.get? name r.actions = some action)
      (declared : action.configurationSchema = .ok schema)
      (bad : ¬∃ raw, Json.ofBytes? input = some raw ∧ schema.Satisfies raw)
      (detail : String) : Refuses r name input (.schemaMismatch detail)

/-- The schemas and types that actions declare are ordered. -/
def Ordered (r : Registry m) : Prop :=
  ∀ e ∈ r.actions, (∀ schema, e.2.configurationSchema = .ok schema → schema.Ordered) ∧
    ∀ type, e.2.outputType = .ok type → type.Ordered

end Registry

/-- How the result of an action is delivered, by the type it declares. -/
structure Delivers (declared : Outcome Descriptor) (deliver : Outcome Json → Outcome Bytes) :
    Prop where
  failed : ∀ e, deliver (.error e) = .error e
  undeclared : ∀ e w, declared = .error e → deliver (.ok w) = .error e
  /-- Bytes are the text of a result of the type, with its nulls. -/
  conforming : ∀ type w bytes, declared = .ok type → w.Ordered →
    (deliver (.ok w) = .ok bytes ↔
      type.toValueType.Inhabits w ∧ bytes = (type.toValueType.fill w).text.toUTF8)
  nonconforming : ∀ type w, declared = .ok type → w.Ordered → ¬type.toValueType.Inhabits w →
    ∃ detail, deliver (.ok w) = .error (.schemaMismatch detail)

/-- What is delivered of a result. -/
def Action.deliver (a : Action m) (result : Outcome Json) : Outcome Bytes := do
  let v ← result
  let type ← a.outputType
  Codec.encodeOutput v type

theorem Action.delivers_deliver {a : Action m}
    (h : ∀ type, a.outputType = .ok type → type.Ordered) : Delivers a.outputType a.deliver where
  failed _ := rfl
  undeclared e w hdeclared := by
    rw [deliver, hdeclared]
    rfl
  conforming type w bytes hdeclared hw := by
    rw [deliver, hdeclared]
    exact Codec.encodeOutput_eq_ok (h type hdeclared) hw
  nonconforming type w hdeclared hw hfits := by
    have htype := Descriptor.ordered_toValueType type (h type hdeclared)
    rw [deliver, hdeclared]
    change ∃ detail, (Codec.conform type.toValueType w >>= fun v => .ok v.text.toUTF8) = _
    rw [Codec.conform]
    cases hconform : type.toValueType.conform w with
    | error mismatch => exact ⟨mismatch.message, rfl⟩
    | ok n => exact absurd ((ValueType.conformAt_eq_ok _ htype hw).1 hconform).1 hfits

-- ================================================================ runs

/-- An action whose input reads runs once, and its result is delivered. -/
theorem Action.invoke_of_ok [Monad m] (a : Action m) (contextId : String) {input : Bytes}
    {v : Json} (h : a.configurationSchema.bind (Codec.decodeInput input) = .ok v) :
    a.invoke contextId input = do
      let result ← a.evaluate contextId v
      return a.deliver result := by
  rw [invoke, h]
  rfl

theorem Action.invoke_of_error [Monad m] (a : Action m) (contextId : String) {input : Bytes}
    {e : ProviderError} (h : a.configurationSchema.bind (Codec.decodeInput input) = .error e) :
    a.invoke contextId input = pure (.error e) := by
  rw [invoke, h]

namespace Registry

/-- An action that is evaluated reads its input by the schema it declares. -/
theorem decode_eq_ok {r : Registry m} (hr : r.Ordered) {name : String} {action : Action m}
    (hfound : Dict.get? name r.actions = some action) {input : Bytes} {v : Json} :
    action.configurationSchema.bind (Codec.decodeInput input) = .ok v ↔
      r.Due name input action v := by
  have hordered := (hr _ (Dict.mem_of_get? hfound)).1
  unfold Due
  cases hschema : action.configurationSchema with
  | error e => exact iff_of_false nofun fun ⟨_, _, _, h, _⟩ => nomatch h
  | ok schema =>
      change Codec.decodeInput input schema = .ok v ↔ _
      rw [Codec.decodeInput_eq_ok (hordered schema hschema)]
      constructor
      · rintro ⟨raw, hread⟩
        exact ⟨hfound, schema, raw, rfl, hread⟩
      · rintro ⟨-, declared, raw, hdeclared, hread⟩
        cases hdeclared
        exact ⟨raw, hread⟩

/-- Where nothing is due, the caller is told why. -/
theorem refuses_of_error {r : Registry m} (hr : r.Ordered) {name : String} {action : Action m}
    (hfound : Dict.get? name r.actions = some action) {input : Bytes} {e : ProviderError}
    (h : action.configurationSchema.bind (Codec.decodeInput input) = .error e) :
    r.Refuses name input e := by
  have hordered := (hr _ (Dict.mem_of_get? hfound)).1
  rcases bind_eq_error.1 h with hschema | ⟨schema, hschema, hdecode⟩
  · exact .undeclared hfound hschema
  · obtain ⟨detail, rfl⟩ := Codec.exists_mismatch_of_decodeInput hdecode
    refine .misfit hfound hschema (fun ⟨raw, hread, hraw⟩ => ?_) detail
    have hok := (Codec.decodeInput_eq_ok (hordered schema hschema)).2 ⟨raw, hread, hraw, rfl⟩
    rw [hdecode] at hok
    cases hok

theorem evaluateAction_of_get? [Monad m] {r : Registry m} {name : String} {action : Action m}
    (h : Dict.get? name r.actions = some action) (contextId : String) (input : Bytes) :
    r.evaluateAction contextId name input = action.invoke contextId input := by
  rw [evaluateAction, Registry.action, h]

theorem evaluateAction_of_none [Monad m] {r : Registry m} {name : String}
    (h : Dict.get? name r.actions = none) (contextId : String) (input : Bytes) :
    r.evaluateAction contextId name input = pure (.error (.unknownAction name)) := by
  rw [evaluateAction, action, h]

/-- A watched registry has the actions of the registry, watched. -/
theorem get?_watched [Monad m] (r : Registry m) (name : String) :
    Dict.get? name r.watched.actions = (Dict.get? name r.actions).map (Action.watched name) :=
  Dict.get?_map Action.watched name r.actions

/-- What is due runs once and is delivered. -/
theorem run_due [Monad m] [LawfulMonad m] {r : Registry m} (hr : r.Ordered)
    {name : String} {input : Bytes} {action : Action m} {v : Json}
    (h : r.Due name input action v) (contextId : String) (log : List Evaluation) :
    (r.watched.evaluateAction contextId name input).run log = do
      let result ← action.evaluate contextId v
      return (action.deliver result, log ++ [⟨name, contextId, v⟩]) := by
  have hfound : Dict.get? name r.watched.actions = some (action.watched name) := by
    rw [get?_watched, h.1]
    rfl
  have hdecode := (decode_eq_ok hr h.1).2 h
  rw [evaluateAction_of_get? hfound, (action.watched name).invoke_of_ok contextId hdecode]
  simp [Action.watched, Action.deliver]

/-- What is not due does not run. -/
theorem run_refused [Monad m] {r : Registry m} (hr : r.Ordered) {name : String}
    {input : Bytes} (h : ∀ action v, ¬r.Due name input action v) (contextId : String) :
    ∃ e, r.Refuses name input e ∧ ∀ log,
      (r.watched.evaluateAction contextId name input).run log = pure (.error e, log) := by
  have hwatched := get?_watched r name
  cases hfound : Dict.get? name r.actions with
  | none =>
      rw [hfound] at hwatched
      refine ⟨_, .unknown hfound, fun log => ?_⟩
      rw [evaluateAction_of_none hwatched]
      rfl
  | some action =>
      rw [hfound] at hwatched
      cases hdecode : action.configurationSchema.bind (Codec.decodeInput input) with
      | ok v => exact absurd ((decode_eq_ok hr hfound).1 hdecode) (h action v)
      | error e =>
          refine ⟨e, refuses_of_error hr hfound hdecode, fun log => ?_⟩
          rw [evaluateAction_of_get? hwatched,
            (action.watched name).invoke_of_error contextId hdecode]
          rfl

/-- Watching changes nothing that the caller is told. -/
theorem fst_watched [Monad m] [LawfulMonad m] (r : Registry m) (contextId name : String)
    (input : Bytes) (log : List Evaluation) :
    Prod.fst <$> (r.watched.evaluateAction contextId name input).run log
      = r.evaluateAction contextId name input := by
  have hwatched := get?_watched r name
  cases hfound : Dict.get? name r.actions with
  | none =>
      rw [hfound] at hwatched
      rw [evaluateAction_of_none hwatched, evaluateAction_of_none hfound]
      simp
  | some action =>
      rw [hfound] at hwatched
      rw [evaluateAction_of_get? hwatched, evaluateAction_of_get? hfound]
      cases hdecode : action.configurationSchema.bind (Codec.decodeInput input) with
      | error e =>
          rw [action.invoke_of_error contextId hdecode,
            (action.watched name).invoke_of_error contextId hdecode]
          simp
      | ok v =>
          rw [action.invoke_of_ok contextId hdecode,
            (action.watched name).invoke_of_ok contextId hdecode]
          simp [Action.watched, Action.deliver]

/-- What an action is shown satisfies its schema as it stands. -/
theorem Due.satisfies {r : Registry m} (hr : r.Ordered) {name : String} {input : Bytes}
    {action : Action m} {v : Json} (h : r.Due name input action v) :
    ∃ schema, action.configurationSchema = .ok schema ∧ schema.Satisfies v ∧
      schema.valueType.Inhabits v ∧ schema.valueType.fill v = v := by
  obtain ⟨hfound, schema, raw, hschema, hread, hraw, rfl⟩ := h
  have hordered : schema.Ordered := (hr _ (Dict.mem_of_get? hfound)).1 schema hschema
  have hrawOrdered := Codec.ordered_of_ofBytes? hread
  have hv := ObjectSchema.ordered_fill hordered hrawOrdered
  have hs := ObjectSchema.satisfies_fill hordered hrawOrdered hraw
  refine ⟨schema, hschema, hs, ((ObjectSchema.satisfies_iff schema hordered .root hv).1 hs).2.1, ?_⟩
  rw [ObjectSchema.fill_valueType schema hordered hv, ObjectSchema.fill_fill hordered hrawOrdered]

/-- Evaluating an action runs it at most once: exactly if the action is
registered and its input satisfies its schema, and then on a value that
is of the type the schema implies and has all that the schema requires.
Bytes come back only as the text of a result of the declared type.
Watching the runs changes no answer; and where the registry was built by
registrations, the action is the first that could be registered under
its name, and its declarations are there. -/
theorem evaluateAction_run [Monad m] [LawfulMonad m] {r : Registry m} (hr : r.Ordered)
    (contextId name : String) (input : Bytes) :
    (∀ action v, r.Due name input action v →
      (∃ schema, action.configurationSchema = .ok schema ∧ schema.Satisfies v ∧
        schema.valueType.Inhabits v ∧ schema.valueType.fill v = v) ∧
      ∃ deliver, Delivers action.outputType deliver ∧ ∀ log,
        (r.watched.evaluateAction contextId name input).run log = do
          let result ← action.evaluate contextId v
          return (deliver result, log ++ [⟨name, contextId, v⟩])) ∧
    ((∀ action v, ¬r.Due name input action v) →
      ∃ e, r.Refuses name input e ∧ ∀ log,
        (r.watched.evaluateAction contextId name input).run log = pure (.error e, log)) ∧
    (∀ log, Prod.fst <$> (r.watched.evaluateAction contextId name input).run log
      = r.evaluateAction contextId name input) ∧
    ∀ registrations, r = build registrations →
      Dict.get? name r.actions = registrations.findSome? (Registration.offer? name) ∧
      ∀ action, Dict.get? name r.actions = some action →
        (∃ schema, action.configurationSchema = .ok schema) ∧
          ∃ type, action.outputType = .ok type := by
  refine ⟨fun action v hdue => ⟨hdue.satisfies hr, action.deliver, ?_, ?_⟩,
    fun h => run_refused hr h contextId, fst_watched r contextId name input, ?_⟩
  · exact action.delivers_deliver (hr _ (Dict.mem_of_get? hdue.1)).2
  · exact run_due hr hdue contextId
  · rintro registrations rfl
    exact ⟨get?_build registrations name, fun action => declares_of_build⟩

end Registry

namespace Demo

/-- The demonstration's functions are what its registrations build. -/
def registrations : List (Registration Id) :=
  [.action "double" double, .trigger "webhook" webhook]

theorem build_registrations : Registry.build registrations = functions := by
  have hdouble : (double.mayRegister .action "double" false).isOk := by decide +kernel
  have hwebhook : webhook.mayRegister .trigger "webhook" false = .ok () :=
    eq_ok_of_isOk (by decide +kernel)
  rw [Registry.build, registrations, List.foldl_cons, Registry.register_action,
    if_pos ⟨rfl, hdouble⟩, List.foldl_cons, Registry.register, Registry.registerTrigger]
  change (webhook.mayRegister .trigger "webhook" false >>= _ : Except _ _).toOption.getD _ = _
  rw [hwebhook]
  rfl

def evaluationInput : Json := .object [("amount", .number (.int 21 (by decide)))]

def evaluationValue : Json :=
  .object [("amount", .number (.int 21 (by decide))), ("note", .null)]

theorem evaluateAction_demo :
    functions.Ordered ∧ functions = Registry.build registrations ∧
      functions.Due "double" evaluationInput.text.toUTF8 double evaluationValue ∧
      ∃ deliver, Delivers double.outputType deliver ∧
        (functions.watched.evaluateAction "ctx" "double" evaluationInput.text.toUTF8).run []
          = (deliver (double.evaluate "ctx" evaluationValue),
              [⟨"double", "ctx", evaluationValue⟩]) := by
  have hordered : functions.Ordered := by
    intro e he
    obtain rfl := List.mem_singleton.1 he
    constructor
    · intro schema hdeclared
      cases hdeclared
      exact ordered_doubleSchema
    · intro type hdeclared
      cases hdeclared
      simp only [Descriptor.Ordered, Descriptor.OrderedFields]
      decide
  have hparse : Codec.parse evaluationInput.text.toUTF8 = .ok evaluationInput := by
    have hlegible : evaluationInput.Legible := by
      simp [evaluationInput, Json.Legible, Json.LegibleMembers, Number.legible_int]
    exact Codec.parse_text hlegible (by decide) (by decide)
  have hdue : functions.Due "double" evaluationInput.text.toUTF8 double evaluationValue := by
    have hfound : Dict.get? "double" functions.actions = some double := rfl
    have hdecode : Codec.decodeInput evaluationInput.text.toUTF8
        (attributes [("amount", .number, true), ("note", .string, false)])
          = .ok evaluationValue :=
      Codec.decodeInput_steps.2 ⟨evaluationInput, hparse, rfl, rfl⟩
    exact (Registry.decode_eq_ok hordered hfound).1 (bind_eq_ok.2 ⟨_, rfl, hdecode⟩)
  obtain ⟨-, deliver, hdeliver, hrun⟩ :=
    (Registry.evaluateAction_run hordered "ctx" "double" _).1 _ _ hdue
  exact ⟨hordered, build_registrations.symm, hdue, deliver, hdeliver, hrun []⟩

end Demo

end ProviderLink
