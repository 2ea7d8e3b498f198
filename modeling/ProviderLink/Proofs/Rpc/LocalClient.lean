/-
A client in the same process as its server. Each of its calls is one
line there and one line back, and both lines are read as they were
written, so the client answers as the gated provider does
(`stands_linked`): what the provider replies comes back as it was, a
failure of the provider as that failure, and a refusal of the server as
the refusal.

The step asks two things of what it carries, and passes them on to
whole runs: tables are in key order, and a reply nests few enough levels
for the line of its response (`Answered.Fits`).
-/
import ProviderLink.Proofs.Rpc.Connection
import ProviderLink.Proofs.Rpc.Gated
import ProviderLink.Proofs.Rpc.Respond
import ProviderLink.Rpc.Client

namespace ProviderLink

open Json Rpc

/-- The reply, if there is one, has its tables in key order and fits into the line of a
response. -/
def Answered.Fits : Answered → Prop
  | ⟨c, .ok r⟩ => c.OrderedReply r ∧ (c.replyJson r).depth + 1 < maxDepth
  | ⟨_, .error _⟩ => True

/-- The answer to `init` fits. -/
theorem Answered.fits_init (runner : RunnerData) (outcome : Outcome ProviderConfig) :
    Answered.Fits ⟨.init runner, outcome⟩ := by
  cases outcome with
  | error e => exact trivial
  | ok config =>
      have hle := Json.depth_canonical_le config.toJson
      have hdepth : config.toJson.depth = 1 := rfl
      have hmax : maxDepth = 128 := rfl
      refine ⟨trivial, ?_⟩
      rw [Call.replyJson]
      omega

namespace Rpc

-- =========================================================== responses

namespace Client

variable {τ : Type} [Transport τ]

theorem request_eq {α : Type} (method : Method) (params : Json) (read : Json.Reader α)
    (client : Client τ) :
    client.request method params read
      = ((Transport.exchange ⟨version, .number client.nextId, method.name, params⟩
            client.transport).1.bind
          (readResponse method (.number client.nextId) read),
        ⟨(Transport.exchange ⟨version, .number client.nextId, method.name, params⟩
            client.transport).2, client.nextId + 1⟩) := rfl

theorem call_eq (c : Call) (client : Client τ) :
    Provider.call c client = client.request c.method c.params c.readReply := rfl

/-- An error in a matching response is a failure. -/
theorem readResponse_error {α : Type} (method : Method) (id : RequestId)
    (read : Json.Reader α) (result : Option Json) (e : Error) :
    readResponse method id read ⟨version, id, result, some e⟩ = .error (.ofRpc e) := by
  rw [readResponse, if_neg (by simp)]

/-- A result in a matching response that reads. -/
theorem readResponse_ok {α : Type} (method : Method) (id : RequestId) {read : Json.Reader α}
    {result : Option Json} {x : α} (h : read (orNull result) = .ok x) :
    readResponse method id read ⟨version, id, result, none⟩ = .ok x := by
  rw [readResponse, if_neg (by simp)]
  simp only [h]

/-- Connecting is one exchange, and then a matter of the version that it brings. -/
theorem connectIf_eq (accept : UInt32 → Except String Unit) (transport : τ) :
    connectIf accept transport
      = (((⟨transport, 1⟩ : Client τ).request .handshake HandshakeParams.current.toJson.canonical
            HandshakeResult.read).1.mapError (fun e => handshakeFailure e.message)
          >>= fun result => checkVersion accept result.protocolVersion,
        ((⟨transport, 1⟩ : Client τ).request .handshake HandshakeParams.current.toJson.canonical
          HandshakeResult.read).2) := by
  unfold connectIf
  dsimp only
  split
  · next e he => rw [he]; rfl
  · next result hresult => rw [hresult]; rfl

theorem connectIf_of_request {accept : UInt32 → Except String Unit} {transport : τ}
    {result : HandshakeResult} {client : Client τ}
    (h : (⟨transport, 1⟩ : Client τ).request .handshake
      HandshakeParams.current.toJson.canonical HandshakeResult.read = (.ok result, client)) :
    connectIf accept transport = (checkVersion accept result.protocolVersion, client) := by
  rw [connectIf_eq, h]
  rfl

/-- The client that comes back is the same, whatever the caller's own condition. -/
theorem connectIf_client (accept accept' : UInt32 → Except String Unit) (transport : τ) :
    (connectIf accept transport).2 = (connectIf accept' transport).2 := by
  rw [connectIf_eq, connectIf_eq]

end Client

-- ============================================================ one call

/-- A client whose handshake is complete, and the gated provider it stands for. -/
structure Linked {π : Type} (client : Client (LocalLink π)) (g : Gated π) : Prop where
  server : client.transport.server = ⟨g.provider, g.lifecycle⟩
  connection : client.transport.connection = .established

variable {π : Type} [Provider π]

/-- An exchange is one line there and one line back. -/
theorem LocalLink.exchange_eq (r : Request) (t : LocalLink π) :
    Transport.exchange r t
      = (decodeResponse (t.server.handleLine t.connection r.text).1.text,
        ⟨(t.server.handleLine t.connection r.text).2.1,
          (t.server.handleLine t.connection r.text).2.2⟩) := by
  have hunfold : Transport.exchange r t = LocalLink.exchange r t := rfl
  rw [hunfold, LocalLink.exchange]

/-- A request that a client makes of a call arrives as it was sent. -/
theorem handleLine_call {c : Call} (h : c.Ordered) (s : Server π) (id : RequestId) :
    s.handleLine .established (Request.text ⟨version, id, c.method.name, c.params⟩)
      = match Server.gate s.lifecycle c.kind with
        | .error e => (Server.respond id (.error e), s, .established)
        | .ok () => (Server.respond id (s.perform c).1, (s.perform c).2, .established) := by
  have hdepth : c.params.depth + 1 < maxDepth :=
    Nat.lt_of_le_of_lt (Nat.succ_le_succ c.depth_params_le) (by decide)
  have hreceived : Request.received ⟨version, id, c.method.name, c.params⟩
      = ⟨version, id, c.method.name, c.params⟩ := by
    rw [Request.received, c.canonical_params]
  rw [Server.handleLine_text c.legible_params hdepth, hreceived]
  exact Server.handleRequest_call h s id

/-- What comes back of an answer of the provider is that answer. -/
theorem readResponse_answer (c : Call) (id : RequestId) {outcome : Outcome c.Reply}
    (h : Answered.Fits ⟨c, outcome⟩) :
    (decodeResponse (Server.respond id (Server.resultOf c outcome)).text).bind
      (Client.readResponse c.method id c.readReply) = outcome := by
  cases outcome with
  | ok r =>
      have hread : c.readReply (orNull (arrived (some (c.replyJson r)))) = .ok r := by
        rw [orNull_arrived, orNull, c.canonical_replyJson]
        exact Call.readReply_replyJson h.1
      rw [Server.resultOf, decodeResponse_ok id (c.legible_replyJson r) h.2]
      exact Client.readResponse_ok _ _ hread
  | error e =>
      rw [Server.resultOf, decodeResponse_error id (plain_toRpc e), Except.bind,
        Client.readResponse_error, e.ofRpc_received]

/-- What comes back of a refusal is what the client understands by it. -/
theorem readResponse_refusal (c : Call) (id : RequestId) {lifecycle : Lifecycle}
    {e : Error} (h : Server.gate lifecycle c.kind = .error e) :
    (decodeResponse (Server.respond id (.error e)).text).bind
      (Client.readResponse c.method id c.readReply) = .error (.ofRpc e.received) := by
  rw [decodeResponse_error id ((Server.gate_failsPlainly ..).plain e h), Except.bind,
    Client.readResponse_error]

/-- A call of a linked client: the outcome is that of the gated provider, and so is what the
call did to the provider and to its life. -/
theorem call_linked {client : Client (LocalLink π)} {g : Gated π} (hlink : Linked client g)
    {c : Call} (h : c.Ordered) (hfits : Answered.Fits ⟨c, (Provider.call c g).1⟩) :
    (Provider.call c client).1 = (Provider.call c g).1
      ∧ Linked (Provider.call c client).2 (Provider.call c g).2 := by
  obtain ⟨⟨server, connection⟩, n⟩ := client
  obtain ⟨p, lifecycle⟩ := g
  obtain ⟨hserver, hconnection⟩ := hlink
  dsimp only at hserver hconnection
  subst hserver hconnection
  have hline := handleLine_call h (⟨p, lifecycle⟩ : Server π) (.number n)
  have hgated := Gated.call_eq c (⟨p, lifecycle⟩ : Gated π)
  rw [Client.call_eq, Client.request_eq, LocalLink.exchange_eq]
  cases hgate : Server.gate lifecycle c.kind with
  | error e =>
      rw [Gated.refusal_of_gate, hgate] at hgated
      rw [hgate] at hline
      rw [hline, hgated]
      dsimp only
      exact ⟨readResponse_refusal c (.number n) hgate, rfl, rfl⟩
  | ok =>
      rw [Gated.refusal_of_gate, hgate] at hgated
      rw [hgate, Server.perform_eq, Gated.lifecycleAfter_eq] at hline
      rw [hgated] at hfits
      rw [hline, hgated]
      dsimp only
      exact ⟨readResponse_answer c (.number n) hfits, rfl, rfl⟩

/-- A call that the provider's life permits is answered as the provider answers it. -/
theorem call_permitted {client : Client (LocalLink π)} {p : π} {lifecycle : Lifecycle}
    (hlink : Linked client ⟨p, lifecycle⟩) {c : Call} (h : c.Ordered)
    (hpermitted : Gated.refusal lifecycle c.kind = none)
    (hfits : Answered.Fits ⟨c, (Provider.call c p).1⟩) :
    (Provider.call c client).1 = (Provider.call c p).1
      ∧ Linked (Provider.call c client).2
        ⟨(Provider.call c p).2, Gated.after lifecycle ⟨c, (Provider.call c p).1⟩⟩ := by
  have hgated := Gated.call_of_none (g := ⟨p, lifecycle⟩) hpermitted
  have hlinked := call_linked hlink h (by rw [hgated]; exact hfits)
  rw [hgated] at hlinked
  exact hlinked

/-- A linked client stands for the gated provider. -/
theorem stands_linked :
    Provider.Stands Call.Ordered Answered.Fits (Linked (π := π)) where
  outcome hlink _ hc hfits := (call_linked hlink hc hfits).1
  after hlink _ hc hfits := (call_linked hlink hc hfits).2

-- ========================================================== connecting

/-- A handshake that both sides agree on completes a new connection. -/
theorem handleLine_handshake {params : HandshakeParams} {result : HandshakeResult}
    (h : negotiate params = .ok result) (s : Server π) (id : RequestId) :
    s.handleLine .new (Request.text
        ⟨version, id, Method.handshake.name, params.toJson.canonical⟩)
      = (Server.respond id (.ok result.toJson.canonical), s, .established) := by
  have hline := Server.handleLine_of_asks (asks_handshakeRequest id params) s .new
  rw [Server.dispatch_agreed (agrees_handshakeRequest id h)] at hline
  exact hline

/-- The client hears what was agreed on. -/
theorem request_handshake {params : HandshakeParams} {result : HandshakeResult}
    (h : negotiate params = .ok result) (s : Server π) (n : Int64) :
    (⟨⟨s, .new⟩, n⟩ : Client (LocalLink π)).request .handshake params.toJson.canonical
        HandshakeResult.read
      = (.ok result, ⟨⟨s, .established⟩, n + 1⟩) := by
  have hdepth : result.toJson.canonical.depth + 1 < maxDepth := by
    have hle := depth_canonical_le result.toJson
    have hmax : maxDepth = 128 := rfl
    rw [result.depth_toJson] at hle
    omega
  have hresult := decodeResponse_ok (.number n)
    (legible_canonical _ result.legible_toJson) hdepth
  have hread : HandshakeResult.read (orNull (arrived (some result.toJson.canonical)))
      = .ok result := by
    rw [orNull_arrived, orNull, canonical_canonical]
    exact HandshakeResult.read_canonical _
  rw [Client.request]
  simp only [LocalLink.exchange_eq, handleLine_handshake h, hresult, Except.bind,
    Client.readResponse_ok _ _ hread]

/-- Connecting succeeds and links the client to a provider that nobody called yet. -/
theorem connect_local (p : π) : ∃ client : Client (LocalLink π),
    Client.connect (LocalLink.new p) = (.ok (), client)
      ∧ Linked client ⟨p, .uninitialized⟩ := by
  have hagreed : negotiate .current = .ok ⟨protocolVersion⟩ := rfl
  have hconnect : Client.connect (LocalLink.new p) = (.ok (), ⟨⟨.new p, .established⟩, 2⟩) :=
    Client.connectIf_of_request (request_handshake hagreed (.new p) 1)
  exact ⟨_, hconnect, rfl, rfl⟩

-- ================================================================ runs

/-- A client connected to a new server of a provider answers every sequence of calls as the
provider does where its life permits the calls, failures included, and refuses the others. The
provider receives exactly the calls that are permitted, and it answers them and ends as it would
if it were called with them directly. -/
theorem run_connected (p : π) (calls : List Call) (hordered : ∀ c ∈ calls, c.Ordered)
    (hfits : ∀ a ∈ (Provider.run calls (Gated.new p)).1, a.Fits) :
    ∃ client : Client (LocalLink (Recorded π)),
      Client.connect (LocalLink.new ⟨p, []⟩) = (.ok (), client)
        ∧ (Provider.run calls client).1 = (Provider.run calls (Gated.new p)).1
        ∧ (Provider.run calls client).2.transport.server
          = ⟨⟨(Provider.run calls (Gated.new p)).2.provider,
                (Gated.permitted calls (Gated.new p)).map Answered.call⟩,
              (Provider.run calls (Gated.new p)).2.lifecycle⟩
        ∧ Provider.run ((Gated.permitted calls (Gated.new p)).map Answered.call) p
          = (Gated.permitted calls (Gated.new p),
              (Provider.run calls (Gated.new p)).2.provider) := by
  obtain ⟨client, hconnect, hlink⟩ := connect_local (Recorded.mk p [])
  have hrecorded := Gated.run_recorded calls p [] .uninitialized
  have hanswers : (Provider.run calls
      (⟨⟨p, []⟩, .uninitialized⟩ : Gated (Recorded π))).1
      = (Provider.run calls (Gated.new p)).1 := congrArg Prod.fst hrecorded
  obtain ⟨hrun, hafter⟩ := Provider.run_of_stands stands_linked calls hlink hordered
    (hanswers ▸ hfits)
  refine ⟨client, hconnect, hrun.trans hanswers, ?_, Gated.run_permitted calls _⟩
  rw [hafter.server, hrecorded]
  rfl

/-- Calls of a demonstration provider, some of them before their time. -/
def demoCalls : List Call :=
  [.actionNames, .initSchema, .init ⟨Demo.runner.global, []⟩, .actionOutputType "double",
    .readSubscription "acme" "sub-1", .init Demo.runner]

/-- What comes of them. -/
def demoAnswers : List Answered :=
  [⟨.actionNames, .error (.unavailable
      "provider is not initialized; call Plugin.Init first")⟩,
    ⟨.initSchema, .ok Demo.initSchema⟩,
    ⟨.init ⟨Demo.runner.global, []⟩, .ok ⟨true⟩⟩,
    ⟨.actionOutputType "double", .ok (.object [("doubled", .primitive .number)])⟩,
    ⟨.readSubscription "acme" "sub-1", .error (.unknownSubscription "acme" "sub-1")⟩,
    ⟨.init Demo.runner, .error (.transport
      "rpc error -32600: provider is already initialized")⟩]

theorem run_demoCalls :
    (Provider.run demoCalls (Gated.new (Demo.new false))).1 = demoAnswers := rfl

theorem ordered_demoCalls : ∀ c ∈ demoCalls, c.Ordered := by
  intro c hc
  simp only [demoCalls, List.mem_cons, List.not_mem_nil, or_false] at hc
  rcases hc with rfl | rfl | rfl | rfl | rfl | rfl
  · exact trivial
  · exact trivial
  · exact List.Pairwise.nil
  · exact trivial
  · exact trivial
  · exact List.pairwise_singleton ..

theorem fits_demo_initSchema : Answered.Fits ⟨.initSchema, .ok Demo.initSchema⟩ := by
  have hordered : Demo.initSchema.Ordered :=
    ⟨⟨List.pairwise_singleton .., fun a ha => List.mem_singleton.1 ha ▸ trivial⟩,
      List.Pairwise.nil, trivial⟩
  exact ⟨hordered, by decide⟩

theorem fits_demo_outputType : Answered.Fits ⟨.actionOutputType "double",
    .ok (.object [("doubled", .primitive .number)])⟩ :=
  ⟨⟨List.pairwise_singleton .., trivial, trivial⟩, by decide⟩

theorem fits_demoAnswers : ∀ a ∈ demoAnswers, a.Fits := by
  intro a ha
  simp only [demoAnswers, List.mem_cons, List.not_mem_nil, or_false] at ha
  rcases ha with rfl | rfl | rfl | rfl | rfl | rfl
  · exact trivial
  · exact fits_demo_initSchema
  · exact Answered.fits_init ..
  · exact fits_demo_outputType
  · exact trivial
  · exact trivial

/-- A client connected to a demonstration provider is given these answers. -/
theorem run_connected_demo : ∃ client : Client (LocalLink (Recorded Demo)),
    Client.connect (LocalLink.new ⟨Demo.new false, []⟩) = (.ok (), client)
      ∧ (Provider.run demoCalls client).1 = demoAnswers := by
  obtain ⟨client, hconnect, hrun, -⟩ := run_connected (Demo.new false) demoCalls
    ordered_demoCalls (run_demoCalls ▸ fits_demoAnswers)
  exact ⟨client, hconnect, hrun.trans run_demoCalls⟩

end Rpc

end ProviderLink
