/-
The handshake. A runner opens a connection by naming the protocol
version it speaks and the magic cookie, which shows that it meant to
talk to a provider. A wrong cookie is reported before a wrong version,
and either is fatal for the connection. A provider started as a process
finds the cookie in its environment as well.
-/
import ProviderLink.Rpc.Failure

namespace ProviderLink.Rpc

/-- The protocol version spoken here. -/
def protocolVersion : UInt32 := 2

/-- The name of the cookie. -/
def cookieKey : String := "Switchboard"

def cookieValue : String := "Plugin"

/-- What a runner says in a handshake. -/
structure HandshakeParams where
  protocolVersion : UInt32
  cookieKey : String
  cookieValue : String
  deriving DecidableEq, Repr

/-- What a provider answers. -/
structure HandshakeResult where
  protocolVersion : UInt32
  deriving DecidableEq, Repr

namespace HandshakeParams

def current : HandshakeParams := ⟨Rpc.protocolVersion, Rpc.cookieKey, Rpc.cookieValue⟩

/-- The record of a handshake. -/
def toJson (p : HandshakeParams) : Json :=
  .object [("protocol_version", .number (.ofUInt32 p.protocolVersion)),
    ("magic_cookie_key", .string p.cookieKey), ("magic_cookie_value", .string p.cookieValue)]

def read : Json.Reader HandshakeParams :=
  ((Json.Fields.pure HandshakeParams.mk)
    |>.field "protocol_version" Json.readUInt32
    |>.field "magic_cookie_key" Json.readString
    |>.field "magic_cookie_value" Json.readString).read "HandshakeParams" false

end HandshakeParams

namespace HandshakeResult

/-- The record of an answer. -/
def toJson (r : HandshakeResult) : Json :=
  .object [("protocol_version", .number (.ofUInt32 r.protocolVersion))]

/-- Reads an answer. -/
def read : Json.Reader HandshakeResult :=
  ((Json.Fields.pure HandshakeResult.mk)
    |>.field "protocol_version" Json.readUInt32).read "HandshakeResult" false

end HandshakeResult

-- ========================================================= negotiation

/-- Why a handshake fails. -/
inductive HandshakeFault
  | versionMismatch (runner provider : UInt32)
  | cookieMismatch (key value : String)
  deriving DecidableEq, Repr

namespace HandshakeFault

/-- The message of a failed handshake. -/
def message : HandshakeFault → String
  | versionMismatch runner provider =>
    "runner speaks protocol version " ++ toString runner.toNat ++ " but provider speaks " ++
      toString provider.toNat
  | cookieMismatch key value => "magic cookie mismatch: " ++ key ++ "=" ++ value

/-- A failed handshake as the error of a response. -/
def toRpc (f : HandshakeFault) : Error := ⟨Code.invalidRequest, f.message, none⟩

end HandshakeFault

/-- A provider's answer to a handshake. -/
def negotiate (p : HandshakeParams) : Except HandshakeFault HandshakeResult :=
  if p.cookieKey ≠ cookieKey ∨ p.cookieValue ≠ cookieValue then
    .error (.cookieMismatch p.cookieKey p.cookieValue)
  else if p.protocolVersion ≠ protocolVersion then
    .error (.versionMismatch p.protocolVersion protocolVersion)
  else .ok ⟨protocolVersion⟩

/-- What a provider process says that finds no cookie in its environment. -/
def notLaunchedMessage : String :=
  "this binary is a switchboard provider and must be launched by a runner (expected " ++
    cookieKey ++ "=" ++ cookieValue ++ " in the environment)"

/-- Whether an environment holds the cookie. -/
def hasCookie (environment : String → Option String) : Bool :=
  environment cookieKey == some cookieValue

end ProviderLink.Rpc
