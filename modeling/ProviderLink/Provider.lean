/-
What a provider is. A provider answers fourteen calls; each call has its
own type of reply, and answering may change what the provider keeps. So
a provider is a state machine, and everything that stands for one — the
provider itself, a client that forwards to it, a record of what reached
it — is an instance of the one class `Provider` and can take the place
of any other.
-/
import ProviderLink.Bytes
import ProviderLink.Dict
import ProviderLink.ProviderError
import ProviderLink.Schema

namespace ProviderLink

/-- Where events go: what a provider is told about the runner. -/
structure GlobalConfig where
  /-- Where triggers over HTTP are registered. -/
  publicIngestUri : String
  /-- Where subscriptions that the provider itself receives deliver events. -/
  privateIngestUri : String
  deriving DecidableEq, Repr

/-- What a runner hands to a provider on `init`. -/
structure RunnerData where
  global : GlobalConfig
  /-- User configuration by context id. -/
  userConfig : Dict String Bytes
  deriving DecidableEq

namespace RunnerData

def userConfigFor (r : RunnerData) (contextId : String) : Option Bytes :=
  Dict.get? contextId r.userConfig

end RunnerData

/-- What a provider reports of itself on `init`. -/
structure ProviderConfig where
  /-- Whether one subscription covers every trigger. -/
  subscriptionsRegisteredTogether : Bool
  deriving DecidableEq, Repr

-- =============================================================== calls

/-- The calls that a provider answers. -/
inductive Call
  /-- Comes once, before all others but `initSchema`; a failure leaves the provider unusable. -/
  | init (runner : RunnerData)
  /-- The schema of each context's user configuration. -/
  | initSchema
  /-- The trigger that an event belongs to. -/
  | mapPayloadToTriggerKey (payload : Bytes)
  | actionNames
  | actionEvaluate (contextId name : String) (input : Bytes)
  | actionConfigurationSchema (name : String)
  | actionOutputType (name : String)
  | triggerKeyNames
  | triggerConfigurationSchema
  | triggerOutputType (key : String)
  | createSubscription (contextId : String) (input : Bytes)
  | readSubscription (contextId subscriptionId : String)
  | updateSubscription (contextId subscriptionId : String) (input : Bytes)
  /-- The id is dead afterwards. -/
  | deleteSubscription (contextId subscriptionId : String)
  deriving DecidableEq

namespace Call

/-- The kinds of calls. -/
inductive Kind
  | init
  | initSchema
  | mapPayloadToTriggerKey
  | actionNames
  | actionEvaluate
  | actionConfigurationSchema
  | actionOutputType
  | triggerKeyNames
  | triggerConfigurationSchema
  | triggerOutputType
  | createSubscription
  | readSubscription
  | updateSubscription
  | deleteSubscription
  deriving DecidableEq, Repr

def kind : Call → Kind
  | .init _ => .init
  | .initSchema => .initSchema
  | .mapPayloadToTriggerKey _ => .mapPayloadToTriggerKey
  | .actionNames => .actionNames
  | .actionEvaluate _ _ _ => .actionEvaluate
  | .actionConfigurationSchema _ => .actionConfigurationSchema
  | .actionOutputType _ => .actionOutputType
  | .triggerKeyNames => .triggerKeyNames
  | .triggerConfigurationSchema => .triggerConfigurationSchema
  | .triggerOutputType _ => .triggerOutputType
  | .createSubscription _ _ => .createSubscription
  | .readSubscription _ _ => .readSubscription
  | .updateSubscription _ _ _ => .updateSubscription
  | .deleteSubscription _ _ => .deleteSubscription

/-- The name of a kind of calls. -/
def Kind.text : Kind → String
  | init => "init"
  | initSchema => "init_schema"
  | mapPayloadToTriggerKey => "map_payload_to_trigger_key"
  | actionNames => "action_names"
  | actionEvaluate => "action_evaluate"
  | actionConfigurationSchema => "action_configuration_schema"
  | actionOutputType => "action_output_type"
  | triggerKeyNames => "trigger_key_names"
  | triggerConfigurationSchema => "trigger_configuration_schema"
  | triggerOutputType => "trigger_output_type"
  | createSubscription => "create_subscription"
  | readSubscription => "read_subscription"
  | updateSubscription => "update_subscription"
  | deleteSubscription => "delete_subscription"

/-- What answers a call. -/
abbrev Reply : Call → Type
  | init _ => ProviderConfig
  | initSchema => ObjectSchema
  | mapPayloadToTriggerKey _ => String
  | actionNames => List String
  | actionEvaluate _ _ _ => Bytes
  | actionConfigurationSchema _ => ObjectSchema
  | actionOutputType _ => Descriptor
  | triggerKeyNames => List String
  | triggerConfigurationSchema => ObjectSchema
  | triggerOutputType _ => Descriptor
  | createSubscription _ _ => Bytes
  | readSubscription _ _ => Bytes
  | updateSubscription _ _ _ => Bytes
  | deleteSubscription _ _ => Unit

end Call

/-- What answers provider calls, one after the other. -/
class Provider (π : Type) where
  call : (c : Call) → π → Outcome c.Reply × π

/-- A provider of one of two types. -/
instance {π ρ : Type} [Provider π] [Provider ρ] : Provider (π ⊕ ρ) where
  call c
    | .inl p => let (r, p) := Provider.call c p; (r, .inl p)
    | .inr p => let (r, p) := Provider.call c p; (r, .inr p)

-- ============================================================ recording

/-- A provider and the calls that reached it, in order. -/
structure Recorded (π : Type) where
  provider : π
  calls : List Call

/-- Recording changes no answer. -/
instance {π : Type} [Provider π] : Provider (Recorded π) where
  call c r :=
    let (reply, provider) := Provider.call c r.provider
    (reply, ⟨provider, r.calls ++ [c]⟩)

end ProviderLink
