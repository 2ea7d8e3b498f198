/-
Provider calls as methods. Each kind of call is one method; its
arguments are the method's parameters and its reply the method's result.
Both directions of both are here, side by side: `Call.params` is undone
by `callOf`, and `Call.replyJson` by `Call.readReply`.
-/
import ProviderLink.Rpc.Handshake
import ProviderLink.Rpc.Params

namespace ProviderLink

namespace Rpc

/-- The methods of a connection. -/
inductive Method
  | handshake
  | call (kind : Call.Kind)
  deriving DecidableEq, Repr

namespace Method

def name : Method → String
  | handshake => "Plugin.Handshake"
  | call .init => "Plugin.Init"
  | call .initSchema => "Plugin.InitSchema"
  | call .mapPayloadToTriggerKey => "Plugin.MapPayloadToTriggerKey"
  | call .actionNames => "Plugin.ActionNames"
  | call .actionConfigurationSchema => "Plugin.ActionConfigurationSchema"
  | call .actionOutputType => "Plugin.ActionOutputType"
  | call .actionEvaluate => "Plugin.ActionEvaluate"
  | call .triggerKeyNames => "Plugin.TriggerKeyNames"
  | call .triggerConfigurationSchema => "Plugin.TriggerConfigurationSchema"
  | call .triggerOutputType => "Plugin.TriggerOutputType"
  | call .createSubscription => "Plugin.CreateSubscription"
  | call .readSubscription => "Plugin.ReadSubscription"
  | call .updateSubscription => "Plugin.UpdateSubscription"
  | call .deleteSubscription => "Plugin.DeleteSubscription"

def all : List Method :=
  [handshake, call .init, call .initSchema, call .mapPayloadToTriggerKey, call .actionNames,
    call .actionConfigurationSchema, call .actionOutputType, call .actionEvaluate,
    call .triggerKeyNames, call .triggerConfigurationSchema, call .triggerOutputType,
    call .createSubscription, call .readSubscription, call .updateSubscription,
    call .deleteSubscription]

def ofName? (s : String) : Option Method := all.find? fun m => m.name == s

/-- The name leads back to the method. -/
theorem ofName?_name (m : Method) : ofName? m.name = some m := by
  cases m with
  | handshake => rfl
  | call kind => cases kind <;> rfl

end Method

-- ====================================================== reading a call

/-- The parameters of a method, as its reader takes them. -/
def parseParams {α : Type} (m : Method) (read : Json.Reader α) (params : Json) :
    Except Error α :=
  match read params with
  | .ok p => .ok p
  | .error fault =>
    .error ⟨Code.invalidParams, "invalid params for " ++ m.name ++ ": " ++ fault.message, none⟩

def callOf (kind : Call.Kind) (params : Json) : Except Error Call :=
  let parse {α : Type} (read : Json.Reader α) := parseParams (.call kind) read params
  match kind with
  | .init => (parse readInit).map .init
  | .initSchema => .ok .initSchema
  | .mapPayloadToTriggerKey => (parse readPayload).map .mapPayloadToTriggerKey
  | .actionNames => .ok .actionNames
  | .actionEvaluate =>
    (parse ActionEvalParams.read).map fun p => .actionEvaluate p.contextId p.name p.input
  | .actionConfigurationSchema => (parse readName).map .actionConfigurationSchema
  | .actionOutputType => (parse readName).map .actionOutputType
  | .triggerKeyNames => .ok .triggerKeyNames
  | .triggerConfigurationSchema => .ok .triggerConfigurationSchema
  | .triggerOutputType => (parse readName).map .triggerOutputType
  | .createSubscription => do
    let p ← parse SubscriptionParams.read
    return .createSubscription p.contextId (← p.requireInput)
  | .readSubscription => do
    let p ← parse SubscriptionParams.read
    return .readSubscription p.contextId (← p.requireSubscriptionId)
  | .updateSubscription => do
    let p ← parse SubscriptionParams.read
    let id ← p.requireSubscriptionId
    return .updateSubscription p.contextId id (← p.requireInput)
  | .deleteSubscription => do
    let p ← parse SubscriptionParams.read
    return .deleteSubscription p.contextId (← p.requireSubscriptionId)

end Rpc

namespace Call

open Rpc

def method (c : Call) : Method := .call c.kind

def params : Call → Json
  | .init runner => (initJson runner).canonical
  | .mapPayloadToTriggerKey payload => (payloadJson payload).canonical
  | .actionEvaluate contextId name input =>
    (ActionEvalParams.toJson ⟨contextId, name, input⟩).canonical
  | .actionConfigurationSchema name | .actionOutputType name | .triggerOutputType name =>
    (nameJson name).canonical
  | .createSubscription contextId input =>
    (SubscriptionParams.toJson ⟨contextId, none, some input⟩).canonical
  | .readSubscription contextId id | .deleteSubscription contextId id =>
    (SubscriptionParams.toJson ⟨contextId, some id, none⟩).canonical
  | .updateSubscription contextId id input =>
    (SubscriptionParams.toJson ⟨contextId, some id, some input⟩).canonical
  | .initSchema | .actionNames | .triggerKeyNames | .triggerConfigurationSchema => .null

/-- The result that a reply travels as. -/
def replyJson : (c : Call) → c.Reply → Json
  | .init _, r => (ProviderConfig.toJson r).canonical
  | .initSchema, r | .actionConfigurationSchema _, r | .triggerConfigurationSchema, r =>
    (ObjectSchema.toJson r).canonical
  | .mapPayloadToTriggerKey _, r => .string r
  | .actionNames, r | .triggerKeyNames, r => Json.strings r
  | .actionOutputType _, r | .triggerOutputType _, r => (Descriptor.toJson r).canonical
  | .actionEvaluate _ _ _, r | .createSubscription _ _, r | .readSubscription _ _, r
  | .updateSubscription _ _ _, r => (dataJson r).canonical
  | .deleteSubscription _ _, _ => .null

/-- Reads the reply to a call from a result. -/
def readReply : (c : Call) → Json.Reader c.Reply
  | .init _ => ProviderConfig.read
  | .initSchema | .actionConfigurationSchema _ | .triggerConfigurationSchema => ObjectSchema.read
  | .mapPayloadToTriggerKey _ => Json.readString
  | .actionNames | .triggerKeyNames => Json.readList Json.readString
  | .actionOutputType _ | .triggerOutputType _ => Descriptor.read
  | .actionEvaluate _ _ _ | .createSubscription _ _ | .readSubscription _ _
  | .updateSubscription _ _ _ => readData
  | .deleteSubscription _ _ => Json.readUnit

end Call

end ProviderLink
