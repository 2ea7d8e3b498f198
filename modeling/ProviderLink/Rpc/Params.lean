/-
The records in which the arguments and the results of provider calls
travel. Opaque bytes travel as base64 text; the ids and inputs that a
subscription call does not need are left out.
-/
import ProviderLink.Provider
import ProviderLink.Rpc.Failure
import ProviderLink.Schema.Record

namespace ProviderLink

-- ============================================================== config

namespace GlobalConfig

/-- The record of the runner's addresses. -/
def toJson (g : GlobalConfig) : Json :=
  .object [("public_ingest_uri", .string g.publicIngestUri),
    ("private_ingest_uri", .string g.privateIngestUri)]

/-- Reads the runner's addresses. -/
def read : Json.Reader GlobalConfig :=
  ((Json.Fields.pure GlobalConfig.mk)
    |>.field "public_ingest_uri" Json.readString
    |>.field "private_ingest_uri" Json.readString).read "GlobalConfig" false

end GlobalConfig

namespace ProviderConfig

/-- The record of what a provider reports. -/
def toJson (c : ProviderConfig) : Json :=
  .object [("subscriptions_registered_together", .bool c.subscriptionsRegisteredTogether)]

/-- Reads what a provider reports. -/
def read : Json.Reader ProviderConfig :=
  ((Json.Fields.pure ProviderConfig.mk)
    |>.field "subscriptions_registered_together" Json.readBool).read "ProviderConfig" false

end ProviderConfig

namespace Rpc

-- =============================================================== bytes

/-- Bytes as base64 text. -/
def bytesJson (b : Bytes) : Json := .string (Base64.encode b)

/-- Decodes the texts of a table in key order. -/
def decodeTexts : List (String × String) → Except Json.Fault (Dict String Bytes)
  | [] => .ok []
  | (key, text) :: rest =>
    match Base64.decode text with
    | .ok bytes => do return (key, bytes) :: (← decodeTexts rest)
    | .error fault => .error (.base64 fault)

/-- Reads a table of bytes; that all are strings is asked before any is decoded. -/
def readBytesDict : Json.Reader (Dict String Bytes) := fun v => do
  decodeTexts (← Json.readDict Json.readString v)

-- ============================================================== params

/-- The record of what `init` hands over. -/
def initJson (r : RunnerData) : Json :=
  .object [("global_config", r.global.toJson),
    ("user_config", .object (Dict.mapValues bytesJson r.userConfig))]

/-- Reads what `init` hands over. -/
def readInit : Json.Reader RunnerData :=
  ((Json.Fields.pure RunnerData.mk)
    |>.field "global_config" GlobalConfig.read
    |>.optional "user_config" readBytesDict []).read "InitParams" false

/-- The arguments of an evaluation. -/
structure ActionEvalParams where
  contextId : String
  name : String
  input : Bytes
  deriving DecidableEq

namespace ActionEvalParams

/-- The record of the arguments. -/
def toJson (p : ActionEvalParams) : Json :=
  .object [("context_id", .string p.contextId), ("name", .string p.name),
    ("input", bytesJson p.input)]

/-- Reads the arguments. -/
def read : Json.Reader ActionEvalParams :=
  ((Json.Fields.pure ActionEvalParams.mk)
    |>.field "context_id" Json.readString
    |>.field "name" Json.readString
    |>.field "input" Json.readBytes).read "ActionEvalParams" false

end ActionEvalParams

/-- The arguments of the subscription calls; which of them must be there depends on the call. -/
structure SubscriptionParams where
  contextId : String
  subscriptionId : Option String
  input : Option Bytes
  deriving DecidableEq

namespace SubscriptionParams

/-- The record of the arguments. -/
def toJson (p : SubscriptionParams) : Json :=
  .object ([("context_id", .string p.contextId)] ++
    memberIf "subscription_id" (p.subscriptionId.map Json.string) ++
    memberIf "input" (p.input.map bytesJson))

/-- Reads the arguments. -/
def read : Json.Reader SubscriptionParams :=
  ((Json.Fields.pure SubscriptionParams.mk)
    |>.field "context_id" Json.readString
    |>.optional "subscription_id" (Json.readOption Json.readString) none
    |>.optional "input" (Json.readOption Json.readBytes) none).read "SubscriptionParams" false

/-- The subscription id, for a call that needs one. -/
def requireSubscriptionId (p : SubscriptionParams) : Except Error String :=
  match p.subscriptionId with
  | some id => .ok id
  | none => .error ⟨Code.invalidParams, "missing subscription_id", none⟩

/-- The input, for a call that needs one. -/
def requireInput (p : SubscriptionParams) : Except Error Bytes :=
  match p.input with
  | some input => .ok input
  | none => .error ⟨Code.invalidParams, "missing input", none⟩

end SubscriptionParams

/-- The record of a name. -/
def nameJson (name : String) : Json := .object [("name", .string name)]

/-- Reads the name of an action or trigger. -/
def readName : Json.Reader String :=
  ((Json.Fields.pure id) |>.field "name" Json.readString).read "NameParams" false

/-- The record of an event's payload. -/
def payloadJson (payload : Bytes) : Json := .object [("payload", bytesJson payload)]

/-- Reads an event's payload. -/
def readPayload : Json.Reader Bytes :=
  ((Json.Fields.pure id) |>.field "payload" Json.readBytes).read "PayloadParams" false

/-- The record of resulting bytes. -/
def dataJson (bytes : Bytes) : Json := .object [("data", bytesJson bytes)]

/-- Reads resulting bytes. -/
def readData : Json.Reader Bytes :=
  ((Json.Fields.pure id) |>.field "data" Json.readBytes).read "BytesResult" false

end Rpc

end ProviderLink
