/-
The configuration of a runner as it stands in a file: the versions of the
protocol that it takes, where events go, and a table of settings for each
context. It is read from TOML or from a JSON value of the same form; in
either, a field that is not known is a fault.
-/
import ProviderLink.Provider
import ProviderLink.Toml.Document
import ProviderLink.Toml.Record

namespace ProviderLink

/-- A configuration file. -/
structure ConfigFile where
  /-- A version requirement. -/
  protocolVersion : Option String
  global : GlobalConfig
  /-- Settings by context. -/
  contexts : Dict String (Dict String Toml)

namespace ConfigFile

-- =========================================================== from JSON

/-- Reads where events go. -/
def readGlobal : Json.Reader GlobalConfig :=
  ((Json.Fields.pure GlobalConfig.mk)
    |>.field "public_ingest_uri" Json.readString
    |>.field "private_ingest_uri" Json.readString).read "GlobalSection" true

def read : Json.Reader ConfigFile :=
  ((Json.Fields.pure ConfigFile.mk)
    |>.optional "protocol_version" (Json.readOption Json.readString) none
    |>.field "global" readGlobal
    |>.optional "contexts" (Json.readDict Toml.readTable) []).read "RunnerConfigFile" true

-- =========================================================== from TOML

open Toml

def string? (key : String) (es : Entries) : Option String :=
  match Dict.get? key es with
  | some (.scalar (.string s)) => some s
  | _ => none

def onlyKeys (known : List String) (es : Entries) : Bool := (Dict.keys es).all known.contains

/-- Where events go: a table of two strings, or an array that begins with them. -/
def global? : Node → Option GlobalConfig
  | .inline es | .table _ es => do
    if !onlyKeys ["public_ingest_uri", "private_ingest_uri"] es then none
    return ⟨← string? "public_ingest_uri" es, ← string? "private_ingest_uri" es⟩
  | .array (.scalar (.string a) :: .scalar (.string b) :: _) => some ⟨a, b⟩
  | _ => none

/-- The settings of a context. A date-time counts as the table of its text. -/
def context? : Node → Option (Dict String Toml)
  | .inline es | .table _ es => (Node.pairs? es).map Dict.ofList
  | .scalar (.datetime d) => some [(marker, .string d.text)]
  | _ => none

/-- The settings of some contexts. -/
def contextList? : List (String × Node) → Option (List (String × Dict String Toml))
  | [] => some []
  | (key, node) :: rest => do
    let settings ← context? node
    return (key, settings) :: (← contextList? rest)

/-- The settings of all contexts. -/
def contexts? : Option Node → Option (Dict String (Dict String Toml))
  | none => some []
  | some (.inline es) | some (.table _ es) => (contextList? es).map Dict.ofList
  | some _ => none

/-- The version requirement, if there is one. -/
def protocolVersion? : Option Node → Option (Option String)
  | none => some none
  | some (.scalar (.string s)) => some (some s)
  | some _ => none

/-- The configuration file of a document's entries. -/
def ofEntries? (es : Entries) : Option ConfigFile := do
  if !onlyKeys ["protocol_version", "global", "contexts"] es then none
  let protocolVersion ← protocolVersion? (Dict.get? "protocol_version" es)
  let global ← global? (← Dict.get? "global" es)
  let contexts ← contexts? (Dict.get? "contexts" es)
  return ⟨protocolVersion, global, contexts⟩

def ofToml? (s : String) : Option ConfigFile := (Entries.ofText? s).bind ofEntries?

end ConfigFile

end ProviderLink
