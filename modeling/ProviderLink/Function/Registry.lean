/-
The actions and triggers of one provider. Both declare a configuration
schema and an output type; an action can also be evaluated. A function
is registered under a trimmed name that its kind does not have yet, and
only if its declarations are valid, so the first registration of a name
stays; evaluating an action decodes its input before the action sees it
and holds its result to the declared type before anyone else does.

Actions are evaluated in a monad of the caller's choice. All that these
definitions do with it is to run an evaluation at most once.
-/
import ProviderLink.Codec
import ProviderLink.Schema.Validity

namespace ProviderLink

/-- What a function declares; a declaration may itself fail. -/
structure Function where
  configurationSchema : Outcome ObjectSchema
  outputType : Outcome Descriptor

/-- A function that can be evaluated on a value, for a context. -/
structure Action (m : Type → Type) extends Function where
  evaluate : (contextId : String) → (input : Json) → m (Outcome Json)

/-- The two kinds of functions. -/
inductive FunctionKind
  | action
  | trigger
  deriving DecidableEq, Repr

namespace FunctionKind

/-- The name of a kind. -/
def text : FunctionKind → String
  | action => "action"
  | trigger => "trigger"

/-- What the kind calls the name of a function. -/
def nameText : FunctionKind → String
  | action => "action name"
  | trigger => "trigger key"

end FunctionKind

/-- Why a function is not registered. -/
inductive RegistrationFault
  | emptyName (kind : FunctionKind)
  | untrimmedName (kind : FunctionKind) (name : String)
  | duplicate (kind : FunctionKind) (name : String)
  /-- Its schema or its output type fails or is not valid. -/
  | badDeclaration (kind : FunctionKind) (name : String) (cause : ProviderError)
  deriving DecidableEq, Repr

namespace RegistrationFault

def message : RegistrationFault → String
  | emptyName kind => kind.text ++ " name must not be empty"
  | untrimmedName kind name =>
    kind.text ++ " name " ++ Text.quoted name ++ " has leading/trailing whitespace"
  | duplicate kind name => "duplicate " ++ kind.nameText ++ ": " ++ name
  | badDeclaration kind name _ => kind.text ++ " " ++ name ++ " declares an invalid schema"

/-- The provider error behind a fault. -/
def cause? : RegistrationFault → Option ProviderError
  | badDeclaration _ _ cause => some cause
  | _ => none

end RegistrationFault

namespace Function

/-- The declarations of a function are there and valid. -/
def validate (f : Function) : Outcome Unit := do
  let schema ← f.configurationSchema
  match schema.validate with
  | .error flaw => throw (.invalidSchema flaw.message)
  | .ok () => pure ()
  let type ← f.outputType
  if type.containsInvalid then throw (.invalidSchema "output type contains an invalid node")

/-- A function may be registered under a name that is taken or not. -/
def mayRegister (f : Function) (kind : FunctionKind) (name : String) (taken : Bool) :
    Except RegistrationFault Unit :=
  if Text.allBlank name then .error (.emptyName kind)
  else if !Text.isTrimmed name then .error (.untrimmedName kind name)
  else if taken then .error (.duplicate kind name)
  else match f.validate with
  | .ok () => .ok ()
  | .error cause => .error (.badDeclaration kind name cause)

end Function

/-- Decodes the input of an action, evaluates it and encodes its result. -/
def Action.invoke {m : Type → Type} [Monad m] (action : Action m) (contextId : String)
    (input : Bytes) : m (Outcome Bytes) :=
  match action.configurationSchema.bind (Codec.decodeInput input) with
  | .error e => pure (.error e)
  | .ok v => do
    let result ← action.evaluate contextId v
    return do
      let v ← result
      let type ← action.outputType
      Codec.encodeOutput v type

/-- Actions and triggers by name. -/
structure Registry (m : Type → Type) where
  actions : Dict String (Action m)
  triggers : Dict String Function

namespace Registry

variable {m : Type → Type}

/-- Nothing registered. -/
def empty : Registry m := ⟨[], []⟩

-- ======================================================== registration

def registerAction (r : Registry m) (name : String) (action : Action m) :
    Except RegistrationFault (Registry m) := do
  action.toFunction.mayRegister .action name (Dict.has name r.actions)
  return { r with actions := Dict.insert name action r.actions }

def registerTrigger (r : Registry m) (key : String) (trigger : Function) :
    Except RegistrationFault (Registry m) := do
  trigger.mayRegister .trigger key (Dict.has key r.triggers)
  return { r with triggers := Dict.insert key trigger r.triggers }

-- ============================================================= lookups

/-- The names of the actions in order. -/
def actionNames (r : Registry m) : List String := Dict.keys r.actions

/-- The keys of the triggers in order. -/
def triggerKeyNames (r : Registry m) : List String := Dict.keys r.triggers

def action (r : Registry m) (name : String) : Outcome (Action m) :=
  match Dict.get? name r.actions with
  | some action => .ok action
  | none => .error (.unknownAction name)

def trigger (r : Registry m) (key : String) : Outcome Function :=
  match Dict.get? key r.triggers with
  | some trigger => .ok trigger
  | none => .error (.unknownTrigger key)

def actionConfigurationSchema (r : Registry m) (name : String) : Outcome ObjectSchema := do
  (← r.action name).configurationSchema

def actionOutputType (r : Registry m) (name : String) : Outcome Descriptor := do
  (← r.action name).outputType

def triggerOutputType (r : Registry m) (key : String) : Outcome Descriptor := do
  (← r.trigger key).outputType

/-- An optional block for every trigger, under its key and with its schema. -/
def triggerBlocks (schema : ObjectSchema) : List (String × Function) → Outcome ObjectSchema
  | [] => .ok schema
  | (key, trigger) :: rest => do
    let nested ← trigger.configurationSchema
    triggerBlocks (schema.withBlock ⟨key, nested, false⟩) rest

/-- The schema of a subscription's configuration: one optional block per trigger. -/
def triggerConfigurationSchema (r : Registry m) : Outcome ObjectSchema :=
  triggerBlocks .empty r.triggers

def evaluateAction [Monad m] (r : Registry m) (contextId name : String) (input : Bytes) :
    m (Outcome Bytes) :=
  match r.action name with
  | .ok action => action.invoke contextId input
  | .error e => pure (.error e)

end Registry

end ProviderLink
