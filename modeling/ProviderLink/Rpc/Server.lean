/-
A provider behind a line protocol. The server keeps one provider for all
its connections. A connection must complete its handshake before
anything else; a handshake that is refused is fatal for the connection
alone. `init` is let through to the provider once, and until then no
other call but `initSchema` is; after a failure of `init` none is, ever.
Every line gets one response, which names the id of the line as far as
one can be made out.
-/
import ProviderLink.Rpc.Method

namespace ProviderLink.Rpc

/-- Where the provider of a server is in its life. -/
inductive Lifecycle
  | uninitialized
  | ready (config : ProviderConfig)
  /-- `init` failed, which is final. -/
  | failed (reason : String)
  deriving DecidableEq, Repr

/-- How far a connection has come. -/
structure Connection where
  handshakeComplete : Bool
  /-- The handshake was refused; the connection is dead. -/
  rejected : Bool
  deriving DecidableEq, Repr

/-- A connection as it opens. -/
def Connection.new : Connection := ⟨false, false⟩

/-- A provider and where it is in its life. -/
structure Server (π : Type) where
  provider : π
  lifecycle : Lifecycle

namespace Server

variable {π : Type}

/-- A server of a provider that nobody called yet. -/
def new (provider : π) : Server π := ⟨provider, .uninitialized⟩

/-- The error of a provider that failed to initialize. -/
def failedInit (reason : String) : Error :=
  ⟨Code.unavailable, "provider failed to initialize: " ++ reason, none⟩

/-- Refuses what needs a provider that is ready. -/
def requireReady : Lifecycle → Except Error Unit
  | .ready _ => .ok ()
  | .uninitialized =>
    .error ⟨Code.unavailable,
      "provider is not initialized; call " ++ (Method.call .init).name ++ " first", none⟩
  | .failed reason => .error (failedInit reason)

/-- Refuses what needs a provider that has not failed. -/
def requireNotFailed : Lifecycle → Except Error Unit
  | .failed reason => .error (failedInit reason)
  | _ => .ok ()

/-- Refuses a second `init`. -/
def requireUninitialized : Lifecycle → Except Error Unit
  | .uninitialized => .ok ()
  | .ready _ => .error ⟨Code.invalidRequest, "provider is already initialized", none⟩
  | .failed reason => .error (failedInit reason)

/-- The call that a method asks for, if the provider may be called so: the parameters of `init`
are read before its turn is asked, those of the other methods after. -/
def callFor (lifecycle : Lifecycle) (kind : Call.Kind) (params : Json) : Except Error Call :=
  match kind with
  | .init => do
    let c ← callOf .init params
    requireUninitialized lifecycle
    return c
  | .initSchema => do
    requireNotFailed lifecycle
    callOf .initSchema params
  | kind => do
    requireReady lifecycle
    callOf kind params

/-- Where the provider is after answering a call. -/
def lifecycleAfter (lifecycle : Lifecycle) : (c : Call) → Outcome c.Reply → Lifecycle
  | .init _, .ok config => .ready config
  | .init _, .error e => .failed e.message
  | _, _ => lifecycle

/-- Calls the provider and makes a result of its reply. -/
def perform [Provider π] (s : Server π) (c : Call) : Except Error Json × Server π :=
  let (reply, provider) := Provider.call c s.provider
  let result := match reply with
    | .ok r => .ok (c.replyJson r)
    | .error e => .error e.toRpc
  (result, ⟨provider, lifecycleAfter s.lifecycle c reply⟩)

def handshake (conn : Connection) (params : Json) : Except Error Json × Connection :=
  if conn.handshakeComplete then
    (.error ⟨Code.invalidRequest, Method.handshake.name ++ " already completed", none⟩, conn)
  else match parseParams .handshake HandshakeParams.read params with
  | .error e => (.error e, conn)
  | .ok p =>
    match negotiate p with
    | .ok result => (.ok result.toJson.canonical, { conn with handshakeComplete := true })
    | .error fault => (.error fault.toRpc, { conn with rejected := true })

/-- The method of a request on a connection, once its handshake is complete. -/
def methodFor (conn : Connection) (name : String) : Except Error Call.Kind :=
  if !conn.handshakeComplete then
    .error ⟨Code.unavailable, Method.handshake.name ++ " must be completed first", none⟩
  else match Method.ofName? name with
  | some (.call kind) => .ok kind
  | _ => .error ⟨Code.methodNotFound, "unsupported method: " ++ name, none⟩

/-- The result of a request, and the server and the connection after it. -/
def dispatch [Provider π] (s : Server π) (conn : Connection) (r : Request) :
    Except Error Json × Server π × Connection :=
  if conn.rejected then
    (.error ⟨Code.unavailable, "connection failed the handshake", none⟩, s, conn)
  else if r.method = Method.handshake.name then
    let (result, conn) := handshake conn r.params
    (result, s, conn)
  else match methodFor conn r.method with
  | .error e => (.error e, s, conn)
  | .ok kind =>
    match callFor s.lifecycle kind r.params with
    | .error e => (.error e, s, conn)
    | .ok c =>
      let (result, s) := s.perform c
      (result, s, conn)

/-- The response that carries a result or an error. -/
def respond (id : RequestId) : Except Error Json → Response
  | .ok result => ⟨version, id, some result, none⟩
  | .error e => ⟨version, id, none, some e⟩

/-- Answers a request. -/
def handleRequest [Provider π] (s : Server π) (conn : Connection) (r : Request) :
    Response × Server π × Connection :=
  if r.jsonrpc ≠ version then
    (respond r.id (.error
      ⟨Code.invalidRequest, "unsupported jsonrpc version: " ++ r.jsonrpc, none⟩), s, conn)
  else
    let (result, s, conn) := s.dispatch conn r
    (respond r.id result, s, conn)

/-- The id of a value that is no request. -/
def idOf (v : Json) : RequestId :=
  match v.member? "id" with
  | some id =>
    match RequestId.read id with
    | .ok id => id
    | .error _ => .null
  | none => .null

/-- Answers a line. To one that is no value the answer quotes the reader, for whose words
`Json.complaint` stands. -/
def handleLine [Provider π] (s : Server π) (conn : Connection) (line : String) :
    Response × Server π × Connection :=
  match Json.ofText? line with
  | none =>
    (respond .null (.error ⟨Code.parseError, "parse error: " ++ Json.complaint, none⟩), s, conn)
  | some v =>
    match Request.read v with
    | .error fault =>
      (respond (idOf v) (.error
        ⟨Code.invalidRequest, "invalid JSON-RPC request: " ++ fault.message, none⟩), s, conn)
    | .ok r => s.handleRequest conn r

end Server

end ProviderLink.Rpc
