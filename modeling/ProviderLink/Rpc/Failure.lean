/-
Provider errors on the wire. Each kind of failure has a code of its own,
its message, and as data what the kind carries, so that the very failure
can be made out again at the other end. The codes of the protocol itself
stand for no failure of a provider: they, and whatever else is not
recognised, come back as `transport`.
-/
import ProviderLink.ProviderError
import ProviderLink.Rpc.Message

namespace ProviderLink

namespace Rpc.Code

def parseError : Int32 := -32700
def invalidRequest : Int32 := -32600
def methodNotFound : Int32 := -32601
def invalidParams : Int32 := -32602

/-- The provider is not initialized, has failed `init`, or the handshake is missing. -/
def unavailable : Int32 := -32003

def invalidTypeRepresentation : Int32 := -32010
def schemaMismatch : Int32 := -32011
def unknownAction : Int32 := -32012
def unknownTrigger : Int32 := -32013

/-- The data holds the ids of the context and of the subscription. -/
def unknownSubscription : Int32 := -32014

def invalidSchema : Int32 := -32015
def failed : Int32 := -32016

/-- The provider itself lost a connection behind it. -/
def transport : Int32 := -32017

end Rpc.Code

namespace ProviderError

open Rpc

def code : ProviderError → Int32
  | invalidTypeRepresentation _ => Code.invalidTypeRepresentation
  | schemaMismatch _ => Code.schemaMismatch
  | invalidSchema _ => Code.invalidSchema
  | unknownAction _ => Code.unknownAction
  | unknownTrigger _ => Code.unknownTrigger
  | unknownSubscription _ _ => Code.unknownSubscription
  | failed _ => Code.failed
  | unavailable _ => Code.unavailable
  | transport _ => Code.transport

/-- What a failure carries besides its message. -/
def data : ProviderError → Json
  | unknownSubscription contextId subscriptionId =>
    .object [("context_id", .string contextId), ("subscription_id", .string subscriptionId)]
  | invalidTypeRepresentation detail | schemaMismatch detail | invalidSchema detail
  | unknownAction detail | unknownTrigger detail | failed detail | unavailable detail
  | transport detail => .object [("detail", .string detail)]

/-- A failure as the error of a response. -/
def toRpc (e : ProviderError) : Rpc.Error := ⟨e.code, e.message, some e.data⟩

/-- A string member of an error's data. -/
def dataText? (e : Rpc.Error) (name : String) : Option String :=
  e.data.bind fun d => d.text? name

/-- The failure that an error of a response stands for. -/
def ofRpc (e : Rpc.Error) : ProviderError :=
  let detail := (dataText? e "detail").getD e.message
  if e.code = Code.invalidTypeRepresentation then invalidTypeRepresentation detail
  else if e.code = Code.schemaMismatch then schemaMismatch detail
  else if e.code = Code.invalidSchema then invalidSchema detail
  else if e.code = Code.unknownAction then unknownAction detail
  else if e.code = Code.unknownTrigger then unknownTrigger detail
  else if e.code = Code.failed then failed detail
  else if e.code = Code.unavailable then unavailable detail
  else if e.code = Code.transport then transport detail
  else if e.code = Code.unknownSubscription then
    match dataText? e "context_id", dataText? e "subscription_id" with
    | some contextId, some subscriptionId => unknownSubscription contextId subscriptionId
    | _, _ => transport ("unknown-subscription error without ids: " ++ e.message)
  else transport ("rpc error " ++ toString e.code.toInt ++ ": " ++ e.message)

end ProviderError

end ProviderLink
