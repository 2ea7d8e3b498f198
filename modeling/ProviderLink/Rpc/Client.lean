/-
A client stands for a provider behind a transport. Every call is one
exchange with an id of its own and is never tried again; a response
counts only if it carries the protocol's version and that id. Failures
of the provider come back as they were, all others as `transport`.
-/
import ProviderLink.Rpc.Transport

namespace ProviderLink.Rpc

/-- A transport and the id of the next exchange. -/
structure Client (τ : Type) where
  transport : τ
  nextId : Int64

namespace Client

variable {τ : Type}

/-- The reply in a response, or the failure it stands for. -/
def readResponse {α : Type} (method : Method) (id : RequestId) (read : Json.Reader α)
    (r : Response) : Outcome α :=
  if r.jsonrpc ≠ version ∨ r.id ≠ id then
    .error (.transport ("mismatched response envelope for " ++ method.name))
  else match r.error with
  | some e => .error (.ofRpc e)
  | none =>
    match read (Json.orNull r.result) with
    | .ok x => .ok x
    | .error fault =>
      .error (.transport ("undecodable " ++ method.name ++ " result: " ++ fault.message))

/-- One exchange. -/
def request [Transport τ] {α : Type} (method : Method) (params : Json) (read : Json.Reader α)
    (c : Client τ) : Outcome α × Client τ :=
  let id := RequestId.number c.nextId
  let (answer, transport) := Transport.exchange ⟨version, id, method.name, params⟩ c.transport
  (answer.bind (readResponse method id read), ⟨transport, c.nextId + 1⟩)

/-- A provider call as one exchange. -/
def call [Transport τ] (c : Call) (client : Client τ) : Outcome c.Reply × Client τ :=
  client.request c.method c.params c.readReply

instance [Transport τ] : Provider (Client τ) := ⟨call⟩

-- ========================================================== connecting

/-- A failure while connecting. -/
def handshakeFailure (why : String) : ProviderError := .transport ("handshake failed: " ++ why)

/-- What a provider's version must meet: the caller's own condition, then to be the one spoken
here. -/
def checkVersion (accept : UInt32 → Except String Unit) (v : UInt32) : Outcome Unit :=
  match accept v with
  | .error why => .error (handshakeFailure why)
  | .ok () =>
    if v = protocolVersion then .ok ()
    else .error (handshakeFailure ("provider speaks protocol version " ++ toString v.toNat ++
      " but runner speaks " ++ toString protocolVersion.toNat))

/-- Completes the handshake over a transport, with a provider of an accepted version. The client
comes back in either case, for what its transport has seen. -/
def connectIf [Transport τ] (accept : UInt32 → Except String Unit) (transport : τ) :
    Outcome Unit × Client τ :=
  let client : Client τ := ⟨transport, 1⟩
  let (answer, client) :=
    client.request .handshake HandshakeParams.current.toJson.canonical HandshakeResult.read
  match answer with
  | .error e => (.error (handshakeFailure e.message), client)
  | .ok r => (checkVersion accept r.protocolVersion, client)

/-- Completes the handshake over a transport. -/
def connect [Transport τ] (transport : τ) : Outcome Unit × Client τ :=
  connectIf (fun _ => .ok ()) transport

end Client

end ProviderLink.Rpc
