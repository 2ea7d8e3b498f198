/-
The configuration of a runner, checked. What a file says is taken over
only if both addresses are URLs with a host, the version requirement is
one, and the context ids can be told apart in a list; the settings of each
context become the JSON text that a provider is given. Faults are found
in this order, and of the contexts the first in the order of their ids.
-/
import ProviderLink.Json.Token
import ProviderLink.Runner.ConfigFile
import ProviderLink.Text.Character
import ProviderLink.Text.Quoted
import ProviderLink.Url
import ProviderLink.Version.Requirement

namespace ProviderLink

/-- A checked configuration. -/
structure RunnerConfig extends RunnerData where
  /-- A version requirement. -/
  protocolVersion : Option String

/-- Why a configuration is not taken. -/
inductive ConfigFault
  | emptyAddress (field : String)
  | relativeAddress (field : String)
  | noHost (field value : String)
  | badRequirement (text : String)
  | emptyContextId
  | blankInContextId (id : String)
  deriving DecidableEq, Repr

def ConfigFault.message : ConfigFault → String
  | emptyAddress field => field ++ " must not be empty"
  | relativeAddress field => field ++ " must be an absolute URL"
  | noHost field value => field ++ " must include a host: " ++ value
  | badRequirement text => "protocol_version must be a valid semver requirement: " ++ text
  | emptyContextId => "context ids must not be empty"
  | blankInContextId id => "context id " ++ Text.quoted id ++ " must not contain whitespace"

/-- Why a configuration does not load. -/
inductive LoadFault
  /-- The text is not TOML or not a configuration. -/
  | malformed
  | refused (fault : ConfigFault)
  deriving DecidableEq, Repr

def LoadFault.message : LoadFault → String
  | malformed => "failed to parse runner config TOML"
  | refused fault => fault.message

/-- Why a configuration does not load from a file. -/
inductive FileFault
  /-- There is no file or it is not text. -/
  | unreadable (path : String)
  | invalid (path : String) (cause : LoadFault)
  deriving DecidableEq, Repr

def FileFault.message : FileFault → String
  | unreadable path => "failed to read runner config at " ++ path
  | invalid path _ => "invalid runner config at " ++ path

namespace RunnerConfig

-- ============================================================ checking

/-- An address is a URL with a host. -/
def checkAddress (field value : String) : Except ConfigFault Unit :=
  if Text.allBlank value then .error (.emptyAddress field)
  else match Url.ofText? value with
  | none => .error (.relativeAddress field)
  | some url => if url.host.isNone then .error (.noHost field value) else .ok ()

/-- A version requirement, if there is one, is in order. -/
def checkRequirement : Option String → Except ConfigFault Unit
  | none => .ok ()
  | some text =>
    if (Version.Requirement.ofText? text).isSome then .ok () else .error (.badRequirement text)

/-- A context id is not empty and has no blanks. -/
def checkContextId (id : String) : Except ConfigFault Unit :=
  if Text.allBlank id then .error .emptyContextId
  else if id.toList.any Text.isBlank then .error (.blankInContextId id)
  else .ok ()

/-- The settings of each context as JSON text. -/
def encodeContexts :
    List (String × Dict String Toml) → Except ConfigFault (List (String × Bytes))
  | [] => .ok []
  | (id, settings) :: rest => do
    checkContextId id
    return (id, (Toml.entriesJson settings).text.toUTF8) :: (← encodeContexts rest)

def ofFile (file : ConfigFile) : Except ConfigFault RunnerConfig := do
  checkAddress "global.public_ingest_uri" file.global.publicIngestUri
  checkAddress "global.private_ingest_uri" file.global.privateIngestUri
  checkRequirement file.protocolVersion
  let userConfig ← encodeContexts file.contexts
  return { global := file.global, userConfig, protocolVersion := file.protocolVersion }

def ofToml (text : String) : Except LoadFault RunnerConfig :=
  match ConfigFile.ofToml? text with
  | none => .error .malformed
  | some file => (ofFile file).mapError .refused

/-- The configuration of a file's content, if there is a file. -/
def ofContent (path : String) (content : Option Bytes) : Except FileFault RunnerConfig :=
  match content.bind Bytes.text? with
  | none => .error (.unreadable path)
  | some text => (ofToml text).mapError (.invalid path)

end RunnerConfig

end ProviderLink
