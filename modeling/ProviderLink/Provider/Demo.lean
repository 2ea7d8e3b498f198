/-
A demonstration provider. It has the action `double`, which doubles an
amount, and the trigger `webhook`, which is subscribed to at a path; a
subscription's state is the JSON object of its id and its configuration.
Each context's user configuration is an object with a `token`.
-/
import ProviderLink.Function.Registry
import ProviderLink.Provider
import ProviderLink.Subscription.Store

namespace ProviderLink

/-- The demonstration provider. -/
structure Demo where
  subscriptions : Store
  /-- Whether `init` fails. -/
  failing : Bool

namespace Demo

/-- The provider as it starts. -/
def new (failing : Bool) : Demo := ⟨.empty, failing⟩

/-- A schema of some attributes, each with a name, a type and whether it is required. -/
def attributes (as : List (String × Primitive × Bool)) : ObjectSchema :=
  as.foldl (fun s a => s.withAttribute ⟨a.1, .primitive a.2.1, a.2.2⟩) .empty

def amount? (input : Json) : Option Number :=
  match input.member? "amount" with
  | some (.number n) => some n
  | _ => none

/-- Doubles the amount; the result is a double, or `null` past the largest. -/
def double : Action Id where
  configurationSchema := .ok (attributes [("amount", .number, true), ("note", .string, false)])
  outputType := .ok (.object [("doubled", .primitive .number)])
  evaluate _ input : Outcome Json :=
    match amount? input with
    | some n => .ok (.object [("doubled", .ofFloat? (n.toFloat.bind Binary64.double))])
    | none => .error (.failed "amount is not a number")

/-- Events that arrive at a path. -/
def webhook : Function where
  configurationSchema := .ok (attributes [("path", .string, true)])
  outputType := .ok .dynamic

/-- The action and the trigger. -/
def functions : Registry Id := ⟨[("double", double)], [("webhook", webhook)]⟩

/-- The schema of each context's user configuration. -/
def initSchema : ObjectSchema := attributes [("token", .string, true)]

/-- Every context's configuration decodes. -/
def checkContexts : List (String × Bytes) → Outcome Unit
  | [] => .ok ()
  | (_, bytes) :: rest => do
    let _ ← Codec.decodeInput bytes initSchema
    checkContexts rest

/-- The answer to `init`. -/
def init (d : Demo) (runner : RunnerData) : Outcome ProviderConfig :=
  if d.failing then .error (.failed "vendor credentials rejected")
  else do
    checkContexts runner.userConfig
    return ⟨true⟩

/-- The trigger named by the `kind` of an event. -/
def triggerKey (payload : Bytes) : Outcome String := do
  let event ← Codec.decodeValue payload .dynamic
  match event.text? "kind" with
  | none => .error (.schemaMismatch "$: missing \"kind\"")
  | some kind => do
    let _ ← functions.trigger kind
    return kind

def stateOf (subscriptionId : String) (input : Bytes) : Outcome Bytes := do
  let schema ← functions.triggerConfigurationSchema
  let config ← Codec.decodeInput input schema
  return (Json.object [("config", config), ("subscription_id", .string subscriptionId)]).text.toUTF8

/-- Replaces a subscription; an unknown one is reported before its input is looked at. -/
def updateSubscription (contextId subscriptionId : String) (input : Bytes) (s : Store) :
    Outcome Bytes × Store :=
  match s.read contextId subscriptionId with
  | .error e => (.error e, s)
  | .ok _ =>
    match stateOf subscriptionId input with
    | .error e => (.error e, s)
    | .ok state =>
      let (r, s) := s.update contextId subscriptionId state
      (r.map Subscription.state, s)

/-- The answer to a call. -/
def call : (c : Call) → Demo → Outcome c.Reply × Demo
  | .init runner, d => (d.init runner, d)
  | .initSchema, d => (.ok initSchema, d)
  | .mapPayloadToTriggerKey payload, d => (triggerKey payload, d)
  | .actionNames, d => (.ok functions.actionNames, d)
  | .actionEvaluate contextId name input, d =>
    (functions.evaluateAction contextId name input, d)
  | .actionConfigurationSchema name, d => (functions.actionConfigurationSchema name, d)
  | .actionOutputType name, d => (functions.actionOutputType name, d)
  | .triggerKeyNames, d => (.ok functions.triggerKeyNames, d)
  | .triggerConfigurationSchema, d => (functions.triggerConfigurationSchema, d)
  | .triggerOutputType key, d => (functions.triggerOutputType key, d)
  | .createSubscription contextId input, d =>
    let (r, s) := d.subscriptions.create contextId fun id s => (stateOf id input, s)
    (r.map Subscription.state, { d with subscriptions := s })
  | .readSubscription contextId id, d =>
    ((d.subscriptions.read contextId id).map Subscription.state, d)
  | .updateSubscription contextId id input, d =>
    let (r, s) := updateSubscription contextId id input d.subscriptions
    (r, { d with subscriptions := s })
  | .deleteSubscription contextId id, d =>
    let (r, s) := d.subscriptions.delete contextId id
    (r.map fun _ => (), { d with subscriptions := s })

instance : Provider Demo := ⟨call⟩

/-- The data of a runner with one context that the provider takes. -/
def runner : RunnerData where
  global := ⟨"https://hooks.example.com/ingest", "http://127.0.0.1:9400/ingest"⟩
  userConfig := [("acme", "\x7b\"token\":\"t-1\"\x7d".toUTF8)]

end Demo

end ProviderLink
