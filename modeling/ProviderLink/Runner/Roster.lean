/-
The providers of a runner, by name. Each is initialized at most once:
the runner's user configuration is held against the provider's own
schema first, and only if all of it fits is `init` called. A provider
whose `init` failed is never called again, and one that is not ready is
called for nothing but its schema. What read and update calls return is
kept as the last state seen of each subscription; the provider stays the
one that knows.
-/
import ProviderLink.Codec
import ProviderLink.Provider
import ProviderLink.Text.Character

namespace ProviderLink

/-- Where a provider of a runner is in its life. -/
inductive Status
  | registered
  | ready (config : ProviderConfig)
  /-- `init` failed, which is final. -/
  | failed (reason : String)
  deriving DecidableEq, Repr

/-- Why a runner's operation on a provider fails. -/
inductive RosterError
  | unknownProvider (name : String)
  | notInitialized (name : String)
  /-- `init` failed earlier. -/
  | initFailed (name reason : String)
  /-- The provider's own failure. -/
  | provider (name : String) (error : ProviderError)
  deriving DecidableEq, Repr

namespace RosterError

/-- The message of a failure. -/
def message : RosterError → String
  | unknownProvider name => "unknown provider: " ++ name
  | notInitialized name => "provider is not initialized: " ++ name
  | initFailed name reason => "provider " ++ name ++ " failed to initialize: " ++ reason
  | provider name error => "provider " ++ name ++ ": " ++ error.message

/-- Whether the provider cannot be reached or used any more. -/
def isUnreachable : RosterError → Bool
  | initFailed _ _ => true
  | provider _ error => error.isUnreachable
  | unknownProvider _ | notInitialized _ => false

/-- The provider's own failure, if the call reached it. -/
def cause? : RosterError → Option ProviderError
  | provider _ error => some error
  | _ => none

end RosterError

/-- A provider of a runner. -/
structure Managed (π : Type) where
  provider : π
  status : Status
  /-- The last state seen of each subscription, by context and id. -/
  lastStates : Dict String (Dict String Bytes)

/-- Providers by name. -/
abbrev Roster (π : Type) := Dict String (Managed π)

/-- Why a provider is not registered. -/
inductive RosterFault
  | emptyName
  | duplicate (name : String)
  deriving DecidableEq, Repr

def RosterFault.message : RosterFault → String
  | emptyName => "provider name must not be empty"
  | duplicate name => "duplicate provider name: " ++ name

/-- What a runner's operation gives back. -/
abbrev Result (α : Type) := Except RosterError α

namespace Managed

variable {π : Type}

/-- The last state seen of a subscription. -/
def lastState (m : Managed π) (contextId id : String) : Option Bytes :=
  (Dict.get? contextId m.lastStates).bind (Dict.get? id)

/-- The last states seen in a context. -/
def statesIn (m : Managed π) (contextId : String) : Dict String Bytes :=
  (Dict.get? contextId m.lastStates).getD []

/-- Keeps the state of a subscription. -/
def remember (m : Managed π) (contextId id : String) (state : Bytes) : Managed π :=
  { m with lastStates :=
      Dict.insert contextId (Dict.insert id state (m.statesIn contextId)) m.lastStates }

/-- Forgets the state of a subscription. -/
def forget (m : Managed π) (contextId id : String) : Managed π :=
  { m with lastStates :=
      Dict.insert contextId (Dict.erase id (m.statesIn contextId)) m.lastStates }

/-- What an outcome says of a subscription's state: it is now this, it is gone, or nothing. -/
def note (m : Managed π) (contextId id : String) (outcome : Outcome (Option Bytes)) :
    Managed π :=
  match outcome with
  | .ok (some state) => m.remember contextId id state
  | .ok none => m.forget contextId id
  | .error (.unknownSubscription _ _) => m.forget contextId id
  | .error _ => m

def call [Provider π] (c : Call) (m : Managed π) : Outcome c.Reply × Managed π :=
  let (reply, provider) := Provider.call c m.provider
  (reply, { m with provider })

end Managed

namespace Roster

variable {π : Type}

-- ======================================================== registration

/-- Registers a provider under a name. -/
def register (r : Roster π) (name : String) (provider : π) : Except RosterFault (Roster π) :=
  if Text.allBlank name then .error .emptyName
  else if Dict.has name r then .error (.duplicate name)
  else .ok (Dict.insert name ⟨provider, .registered, []⟩ r)

/-- The names in order. -/
def names (r : Roster π) : List String := Dict.keys r

/-- The provider of a name. -/
def managed (r : Roster π) (name : String) : Result (Managed π) :=
  match Dict.get? name r with
  | some m => .ok m
  | none => .error (.unknownProvider name)

/-- Where the provider of a name is in its life. -/
def status (r : Roster π) (name : String) : Result Status := (r.managed name).map Managed.status

/-- The last state seen of a subscription. -/
def lastState (r : Roster π) (name contextId id : String) : Result (Option Bytes) :=
  (r.managed name).map fun m => m.lastState contextId id

/-- The provider of a name, if it is ready. -/
def ready (r : Roster π) (name : String) : Result (Managed π) := do
  let m ← r.managed name
  match m.status with
  | .ready _ => return m
  | .registered => throw (.notInitialized name)
  | .failed reason => throw (.initFailed name reason)

-- ============================================================== init

/-- The first context, in the order given, whose configuration the schema does not take. -/
def checkContexts (schema : ObjectSchema) : List (String × Bytes) → Outcome Unit
  | [] => .ok ()
  | (_, bytes) :: rest => do
    let _ ← Codec.decodeInput bytes schema
    checkContexts schema rest

/-- Initializes a provider that was not called yet. -/
def initManaged [Provider π] (name : String) (runner : RunnerData) (m : Managed π) :
    Result ProviderConfig × Managed π :=
  let (schema, m) := m.call .initSchema
  match schema.bind fun schema => checkContexts schema runner.userConfig with
  | .error e => (.error (.provider name e), m)
  | .ok () =>
    let (reply, m) := m.call (.init runner)
    match reply with
    | .ok config => (.ok config, { m with status := .ready config })
    | .error e => (.error (.provider name e), { m with status := .failed e.message })

/-- Initializes the provider of a name; a ready one reports its configuration again. -/
def init [Provider π] (r : Roster π) (name : String) (runner : RunnerData) :
    Result ProviderConfig × Roster π :=
  match r.managed name with
  | .error e => (.error e, r)
  | .ok m =>
    match m.status with
    | .ready config => (.ok config, r)
    | .failed reason => (.error (.initFailed name reason), r)
    | .registered =>
      let (result, m) := initManaged name runner m
      (result, Dict.insert name m r)

/-- Initializes the providers of some names in order. -/
def initEach [Provider π] (runner : RunnerData) :
    List String → Roster π → List (String × Result ProviderConfig) × Roster π
  | [], r => ([], r)
  | name :: rest, r =>
    let (result, r) := r.init name runner
    let (results, r) := initEach runner rest r
    ((name, result) :: results, r)

/-- Initializes every provider in the order of the names. -/
def initAll [Provider π] (r : Roster π) (runner : RunnerData) :
    List (String × Result ProviderConfig) × Roster π :=
  initEach runner r.names r

-- =============================================================== calls

/-- Calls the provider of a name, which must be ready, and takes note of the outcome. -/
def callNoting [Provider π] (r : Roster π) (name : String) (c : Call)
    (note : Outcome c.Reply → Managed π → Managed π) : Result c.Reply × Roster π :=
  match r.ready name with
  | .error e => (.error e, r)
  | .ok m =>
    let (reply, m) := m.call c
    (reply.mapError (.provider name), Dict.insert name (note reply m) r)

/-- Calls the provider of a name, which must be ready. -/
def call [Provider π] (r : Roster π) (name : String) (c : Call) : Result c.Reply × Roster π :=
  r.callNoting name c fun _ m => m

def evaluateAction [Provider π] (r : Roster π) (name contextId action : String)
    (input : Bytes) : Result Bytes × Roster π :=
  r.call name (.actionEvaluate contextId action input)

/-- The trigger of a provider that an event belongs to. -/
def mapPayloadToTriggerKey [Provider π] (r : Roster π) (name : String) (payload : Bytes) :
    Result String × Roster π :=
  r.call name (.mapPayloadToTriggerKey payload)

def createSubscription [Provider π] (r : Roster π) (name contextId : String) (input : Bytes) :
    Result Bytes × Roster π :=
  r.call name (.createSubscription contextId input)

/-- Reads a subscription and keeps its state. -/
def readSubscription [Provider π] (r : Roster π) (name contextId id : String) :
    Result Bytes × Roster π :=
  r.callNoting name (.readSubscription contextId id) fun reply m =>
    m.note contextId id (reply.map some)

/-- Replaces a subscription and keeps its new state. -/
def updateSubscription [Provider π] (r : Roster π) (name contextId id : String)
    (input : Bytes) : Result Bytes × Roster π :=
  r.callNoting name (.updateSubscription contextId id input) fun reply m =>
    m.note contextId id (reply.map some)

/-- Deletes a subscription and forgets its state. -/
def deleteSubscription [Provider π] (r : Roster π) (name contextId id : String) :
    Result Unit × Roster π :=
  r.callNoting name (.deleteSubscription contextId id) fun reply m =>
    m.note contextId id (reply.map fun _ => none)

end Roster

end ProviderLink
