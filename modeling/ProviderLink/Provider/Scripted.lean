/-
A provider made of given functions. It answers from a registry, keeps
subscriptions whose state is their id and their input, and can be told
to fail any call or to insist on what `init` hands it, so that whatever
stands between a runner and a provider can be put through its paces.
-/
import ProviderLink.Function.Registry
import ProviderLink.Provider
import ProviderLink.Subscription.Store

namespace ProviderLink

/-- What a scripted provider does. -/
structure Script where
  functions : Registry Id
  initSchema : ObjectSchema
  /-- Reported on `init`. -/
  together : Bool
  /-- A context that `init` must find configured. -/
  requiredContext : Option String
  /-- The public address that `init` must find. -/
  requiredPublicUri : Option String
  /-- The calls that fail, by the name of their kind. -/
  errors : Dict String ProviderError

/-- A scripted provider and its subscriptions. -/
structure Scripted where
  script : Script
  subscriptions : Store

namespace Scripted

/-- The provider as it starts. -/
def new (script : Script) : Scripted := ⟨script, .empty⟩

def stateOf (subscriptionId : String) (input : Bytes) : Bytes :=
  (subscriptionId ++ ":").toUTF8 ++ input

/-- The answer to `init`: what is required of the runner is asked for in turn. -/
def init (s : Script) (runner : RunnerData) : Outcome ProviderConfig :=
  match s.requiredContext.filter fun c => (runner.userConfigFor c).isNone with
  | some c => .error (.failed ("no config for " ++ c))
  | none =>
    match s.requiredPublicUri.filter fun uri => uri ≠ runner.global.publicIngestUri with
    | some _ => .error (.failed ("public uri is " ++ runner.global.publicIngestUri))
    | none => .ok ⟨s.together⟩

/-- The trigger named by the `key` of an event, or `default`. -/
def triggerKey (functions : Registry Id) (payload : Bytes) : Outcome String := do
  let event ← Codec.decodeValue payload .dynamic
  let key := (event.text? "key").getD "default"
  let _ ← functions.trigger key
  return key

/-- The answer to a call that is not told to fail. -/
def answer : (c : Call) → Scripted → Outcome c.Reply × Scripted
  | .init runner, p => (init p.script runner, p)
  | .initSchema, p => (.ok p.script.initSchema, p)
  | .mapPayloadToTriggerKey payload, p => (triggerKey p.script.functions payload, p)
  | .actionNames, p => (.ok p.script.functions.actionNames, p)
  | .actionEvaluate contextId name input, p =>
    (p.script.functions.evaluateAction contextId name input, p)
  | .actionConfigurationSchema name, p => (p.script.functions.actionConfigurationSchema name, p)
  | .actionOutputType name, p => (p.script.functions.actionOutputType name, p)
  | .triggerKeyNames, p => (.ok p.script.functions.triggerKeyNames, p)
  | .triggerConfigurationSchema, p => (p.script.functions.triggerConfigurationSchema, p)
  | .triggerOutputType key, p => (p.script.functions.triggerOutputType key, p)
  | .createSubscription contextId input, p =>
    let (r, s) := p.subscriptions.create contextId fun id s => (.ok (stateOf id input), s)
    (r.map Subscription.state, { p with subscriptions := s })
  | .readSubscription contextId id, p =>
    ((p.subscriptions.read contextId id).map Subscription.state, p)
  | .updateSubscription contextId id input, p =>
    let (r, s) := p.subscriptions.update contextId id (stateOf id input)
    (r.map Subscription.state, { p with subscriptions := s })
  | .deleteSubscription contextId id, p =>
    let (r, s) := p.subscriptions.delete contextId id
    (r.map fun _ => (), { p with subscriptions := s })

/-- The answer to a call. -/
def call (c : Call) (p : Scripted) : Outcome c.Reply × Scripted :=
  match Dict.get? c.kind.text p.script.errors with
  | some e => (.error e, p)
  | none => answer c p

instance : Provider Scripted := ⟨call⟩

end Scripted

end ProviderLink
