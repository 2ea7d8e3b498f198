/-
A configuration in use. Its requirement says which versions a provider may
speak, and connecting under it asks for one of these first and then for
the one spoken here. The settings of each context are held against the
schema of a provider before it is given them.
-/
import ProviderLink.Codec
import ProviderLink.Rpc.Client
import ProviderLink.Runner.Config

namespace ProviderLink

/-- Why a provider does not go with a configuration. -/
inductive VersionFault
  | badRequirement (text : String)
  | unsupported (requirement : String) (version : UInt32)
  deriving DecidableEq, Repr

def VersionFault.message : VersionFault → String
  | badRequirement text => (ConfigFault.badRequirement text).message
  | unsupported requirement version =>
    "runner requires protocol_version " ++ requirement ++ " but provider speaks " ++
      toString version.toNat

/-- A context whose configuration is not what a provider asks for. -/
structure ContextFault where
  contextId : String
  cause : ProviderError
  deriving DecidableEq, Repr

def ContextFault.message (f : ContextFault) : String :=
  "user config for context " ++ f.contextId ++ " does not match the init schema"

namespace RunnerConfig

-- ============================================================= versions

/-- Whether the required versions include a provider's. -/
def supportsProtocol (requirement : Option String) (version : UInt32) :
    Except VersionFault Unit :=
  match requirement with
  | none => .ok ()
  | some text =>
    match Version.Requirement.ofText? text with
    | none => .error (.badRequirement text)
    | some r =>
      if r.accepts ⟨version.toNat, 0, 0⟩ then .ok () else .error (.unsupported text version)

/-- What a configuration accepts, with the reason why not. -/
def acceptsVersion (c : RunnerConfig) (version : UInt32) : Except String Unit :=
  (supportsProtocol c.protocolVersion version).mapError VersionFault.message

/-- Completes the handshake over a transport, with a provider that the configuration takes. -/
def connect {τ : Type} [Rpc.Transport τ] (c : RunnerConfig) (transport : τ) :
    Outcome Unit × Rpc.Client τ :=
  Rpc.Client.connectIf c.acceptsVersion transport

-- ============================================================= settings

/-- Holds each context's configuration against a provider's schema. -/
def checkUserConfig (schema : ObjectSchema) :
    List (String × Bytes) → Except ContextFault Unit
  | [] => .ok ()
  | (contextId, bytes) :: rest =>
    match Codec.decodeInput bytes schema with
    | .ok _ => checkUserConfig schema rest
    | .error cause => .error ⟨contextId, cause⟩

end RunnerConfig

end ProviderLink
