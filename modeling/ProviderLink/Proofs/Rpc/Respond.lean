/-
The responses of a server and what becomes of them on their way. A
server answers a request with a result that can be written
(`Sendable`): the errors it makes itself carry no data, those of the
provider carry little, and a result comes from a reply.

Whatever a response carries, its line is not taken for the response to
another request (`id_of_decodeResponse`). This holds for results of any
nesting: one that nests too deep is no response at all.

A failure of the provider gets there whatever it says, as the line of an
error has room for all that a failure carries (`failures_survive`).
-/
import ProviderLink.Proofs.Rpc.Failure
import ProviderLink.Proofs.Rpc.Server
import ProviderLink.Rpc.Transport

namespace ProviderLink.Rpc

open Json

-- ============================================================ sendable

/-- The data of an error, if there is any, is legible and flat. -/
def Error.Plain (e : Error) : Prop := ∀ v ∈ e.data, v.Legible ∧ v.depth ≤ 1

/-- A result that can be written and an error that can be read back. -/
def Sendable : Except Error Json → Prop
  | .ok v => v.Legible
  | .error e => e.Plain

/-- An error without data is plain. -/
theorem Error.Plain.of_none {e : Error} (h : e.data = none) : e.Plain := by
  intro v hv
  rw [h] at hv
  cases hv

/-- A failure of a provider is plain. -/
theorem plain_toRpc (e : ProviderError) : e.toRpc.Plain := by
  intro v hv
  rw [← Option.mem_some_iff.1 hv]
  cases e with
  | unknownSubscription => exact ⟨⟨trivial, trivial, trivial⟩, Nat.le_refl 1⟩
  | invalidTypeRepresentation | schemaMismatch | invalidSchema | unknownAction
  | unknownTrigger | failed | unavailable | transport =>
      exact ⟨⟨trivial, trivial⟩, Nat.le_refl 1⟩

/-- If something goes wrong, then with a plain error. -/
structure FailsPlainly {α : Type} (x : Except Error α) : Prop where
  plain : ∀ e, x = .error e → e.Plain

namespace FailsPlainly

variable {α β : Type}

theorem ok (a : α) : FailsPlainly (.ok a) := ⟨fun _ h => nomatch h⟩

theorem error {e : Error} (h : e.data = none) : FailsPlainly (.error e : Except Error α) := by
  constructor
  intro e' he'
  cases he'
  exact .of_none h

/-- One step after the other. -/
theorem bind {x : Except Error α} {f : α → Except Error β} (hx : FailsPlainly x)
    (hf : ∀ a, FailsPlainly (f a)) : FailsPlainly (x >>= f) := by
  cases x with
  | error e =>
      constructor
      intro e' he'
      cases he'
      exact hx.plain e rfl
  | ok a => exact hf a

/-- What is made of a value afterwards. -/
theorem map {x : Except Error α} (hx : FailsPlainly x) (f : α → β) :
    FailsPlainly (x.map f) := by
  cases x with
  | error e =>
      constructor
      intro e' he'
      cases he'
      exact hx.plain e rfl
  | ok a => exact .ok (f a)

end FailsPlainly

/-- Parameters are refused with a plain error. -/
theorem parseParams_failsPlainly {α : Type} (m : Method) (read : Json.Reader α) (params : Json) :
    FailsPlainly (parseParams m read params) := by
  unfold parseParams
  cases read params with
  | ok p => exact .ok p
  | error fault => exact .error rfl

namespace SubscriptionParams

/-- So is a missing id. -/
theorem requireSubscriptionId_failsPlainly (p : SubscriptionParams) :
    FailsPlainly p.requireSubscriptionId := by
  unfold requireSubscriptionId
  cases p.subscriptionId with
  | some id => exact .ok id
  | none => exact .error rfl

/-- So is a missing input. -/
theorem requireInput_failsPlainly (p : SubscriptionParams) :
    FailsPlainly p.requireInput := by
  unfold requireInput
  cases p.input with
  | some input => exact .ok input
  | none => exact .error rfl

end SubscriptionParams

/-- A call is refused for its parameters with a plain error. -/
theorem callOf_failsPlainly (kind : Call.Kind) (params : Json) :
    FailsPlainly (callOf kind params) := by
  cases kind with
  | initSchema | actionNames | triggerKeyNames | triggerConfigurationSchema => exact .ok _
  | init | mapPayloadToTriggerKey | actionEvaluate | actionConfigurationSchema
  | actionOutputType | triggerOutputType => exact .map (parseParams_failsPlainly ..) _
  | createSubscription =>
      exact .bind (parseParams_failsPlainly ..) fun p =>
        .bind p.requireInput_failsPlainly fun _ => .ok _
  | readSubscription | deleteSubscription =>
      exact .bind (parseParams_failsPlainly ..) fun p =>
        .bind p.requireSubscriptionId_failsPlainly fun _ => .ok _
  | updateSubscription =>
      exact .bind (parseParams_failsPlainly ..) fun p =>
        .bind p.requireSubscriptionId_failsPlainly fun _ =>
          .bind p.requireInput_failsPlainly fun _ => .ok _

namespace Server

/-- The gate refuses with a plain error. -/
theorem gate_failsPlainly (lifecycle : Lifecycle) (kind : Call.Kind) :
    FailsPlainly (gate lifecycle kind) := by
  constructor
  intro e he
  cases lifecycle with
  | uninitialized => cases kind <;> cases he <;> exact .of_none rfl
  | ready =>
      -- a provider that is ready refuses `init` alone
      cases kind with
      | init =>
          cases he
          exact .of_none rfl
      | _ => cases he
  | failed reason =>
      rw [gate_failed] at he
      cases he
      exact .of_none rfl

/-- So a call is refused with one. -/
theorem callFor_failsPlainly (lifecycle : Lifecycle) (kind : Call.Kind) (params : Json) :
    FailsPlainly (callFor lifecycle kind params) := by
  by_cases hinit : kind = .init
  · subst hinit
    rw [callFor_init]
    exact .bind (callOf_failsPlainly ..) fun c =>
      .bind (gate_failsPlainly ..) fun _ => .ok c
  · rw [callFor_of_ne hinit]
    exact .bind (gate_failsPlainly ..) fun _ => callOf_failsPlainly ..

/-- And so is a method. -/
theorem methodFor_failsPlainly (conn : Connection) (name : String) :
    FailsPlainly (methodFor conn name) := by
  unfold methodFor
  split
  · exact .error rfl
  · split
    · exact .ok _
    · exact .error rfl

/-- A handshake comes out sendable. -/
theorem sendable_handshake (conn : Connection) (params : Json) :
    Sendable (handshake conn params).1 := by
  unfold handshake
  split
  · exact Error.Plain.of_none rfl
  · split
    · next e he => exact (parseParams_failsPlainly ..).plain e he
    · split
      · next result _ => exact legible_canonical _ result.legible_toJson
      · exact Error.Plain.of_none rfl

variable {π : Type} [Provider π]

/-- An answer of the provider is sendable. -/
theorem sendable_resultOf (c : Call) (outcome : Outcome c.Reply) :
    Sendable (resultOf c outcome) := by
  cases outcome with
  | ok r => exact c.legible_replyJson r
  | error e => exact plain_toRpc e

/-- Whatever is asked, the result is sendable. -/
theorem sendable_dispatch (s : Server π) (conn : Connection) (r : Request) :
    Sendable (s.dispatch conn r).1 := by
  unfold dispatch
  split
  · exact Error.Plain.of_none rfl
  · split
    · exact sendable_handshake conn r.params
    · split
      · next e he => exact (methodFor_failsPlainly ..).plain e he
      · split
        · next e he => exact (callFor_failsPlainly ..).plain e he
        · next c _ =>
          rw [perform_eq]
          exact sendable_resultOf c _

/-- A request is answered under its id. -/
theorem exists_respond_request (s : Server π) (conn : Connection) (r : Request) :
    ∃ result, Sendable result ∧ (s.handleRequest conn r).1 = respond r.id result := by
  unfold handleRequest
  split
  · exact ⟨.error _, Error.Plain.of_none rfl, rfl⟩
  · exact ⟨_, s.sendable_dispatch conn r, rfl⟩

/-- So is the line of one. -/
theorem exists_respond {r : Request} (hl : r.params.Legible)
    (hd : r.params.depth + 1 < maxDepth) (s : Server π) (conn : Connection) :
    ∃ result, Sendable result ∧ (s.handleLine conn r.text).1 = respond r.id result := by
  rw [handleLine_text hl hd]
  exact s.exists_respond_request conn r.received

/-- The line of a request that is no handshake leaves the connection as it was. -/
theorem handleLine_connection {r : Request} (hl : r.params.Legible)
    (hd : r.params.depth + 1 < maxDepth) (hm : r.method ≠ Method.handshake.name)
    (s : Server π) (conn : Connection) : (s.handleLine conn r.text).2.2 = conn := by
  rw [handleLine_text hl hd, handleRequest]
  split
  · rfl
  · exact s.dispatch_connection (r := r.received) conn hm

end Server

-- ============================================================= decoded

/-- What a sendable result is sent in is legible. -/
theorem legible_respond (id : RequestId) {result : Except Error Json} (h : Sendable result) :
    (Server.respond id result).Legible := by
  cases result with
  | ok v => exact ⟨fun w hw => Option.mem_some_iff.1 hw ▸ h, nofun⟩
  | error e =>
      refine ⟨nofun, fun e' he' v hv => ?_⟩
      rw [← Option.mem_some_iff.1 he'] at hv
      exact (h v hv).1

/-- The line of a response is decoded as it arrives. -/
theorem decodeResponse_text {r : Response} (hl : r.Legible) (hd : r.toJson.depth < maxDepth) :
    decodeResponse r.text = .ok r.received := by
  rw [decodeResponse, Response.ofText?_text hl hd]

/-- The line of a result. -/
theorem decodeResponse_ok (id : RequestId) {v : Json} (hl : v.Legible)
    (hd : v.depth + 1 < maxDepth) :
    decodeResponse (Server.respond id (.ok v)).text
      = .ok ⟨version, id, arrived (some v), none⟩ := by
  refine decodeResponse_text (legible_respond id hl) ?_
  simp only [Server.respond, Response.toJson, memberIf, Option.map_none, List.append_nil,
    List.cons_append, List.nil_append, depth, depthMembers, id.depth_toJson]
  omega

/-- The line of an error. -/
theorem decodeResponse_error (id : RequestId) {e : Error} (h : e.Plain) :
    decodeResponse (Server.respond id (.error e)).text
      = .ok ⟨version, id, none, some e.received⟩ := by
  have hdepth : e.toJson.depth ≤ 2 := by
    obtain ⟨code, message, data⟩ := e
    cases data with
    | none => exact Nat.le_succ 1
    | some v =>
        have hv : v.depth ≤ 1 := (h v rfl).2
        simp only [Error.toJson, memberIf, List.cons_append, List.nil_append, depth,
          depthMembers]
        omega
  refine decodeResponse_text (legible_respond id h) ?_
  have hmax : maxDepth = 128 := rfl
  simp only [Server.respond, Response.toJson, memberIf, Option.map_some, List.append_nil,
    List.cons_append, List.nil_append, depth, depthMembers, id.depth_toJson]
  omega

/-- The fields of a result are selected as they were written, with whatever the result itself is
read as. -/
theorem select?_result (id : RequestId) (v : Json) :
    Response.select? (lexed (Server.respond id (.ok v)).toJson.tokens)
      = (ofLexemes? (maxDepth - 1) (lexed v.tokens)).map fun w =>
          (Server.respond id (.ok w)).toJson := by
  have hid : ofLexemes? (maxDepth - 1) (lexed id.toJson.tokens) = some id.toJson :=
    ofLexemes?_tokens (by rw [id.depth_toJson]; decide)
  have hversion : ofLexemes? (maxDepth - 1) (lexed (string version).tokens)
      = some (string version) := ofLexemes?_tokens (by decide)
  have hnames : Response.fields.names = ["jsonrpc", "id", "result", "error"] := rfl
  rw [Response.select?, Server.respond, Response.toJson, selectFields_object]
  cases hresult : ofLexemes? (maxDepth - 1) (lexed v.tokens) with
  | none => simp [selectMembers, memberIf, hnames, hid, hversion, hresult]
  | some w =>
      simp [selectMembers, memberIf, hnames, hid, hversion, hresult, Server.respond,
        Response.toJson]

/-- The line of a result is the response of whatever its result is read as, or of nothing. -/
theorem ofText?_result (id : RequestId) {v : Json} (h : v.Legible) :
    Response.ofText? (Server.respond id (.ok v)).text
      = (ofLexemes? (maxDepth - 1) (lexed v.tokens)).map fun w =>
          (Server.respond id (.ok w)).received := by
  have hsendable : Sendable (.ok v) := h
  rw [Response.ofText?_tokens (legible_respond id hsendable), select?_result]
  cases ofLexemes? (maxDepth - 1) (lexed v.tokens) with
  | none => rfl
  | some w =>
      rw [Option.map_some, Option.bind_some, responseRepeats_toJson, Response.read_canonical]
      rfl

/-- A response that is read from what a server sends has the id it was sent under. -/
theorem id_of_decodeResponse {id : RequestId} {result : Except Error Json} {r : Response}
    (h : Sendable result)
    (hr : decodeResponse (Server.respond id result).text = .ok r) : r.id = id := by
  cases result with
  | error e =>
      rw [decodeResponse_error id h] at hr
      cases hr
      rfl
  | ok v =>
      rw [decodeResponse, ofText?_result id h] at hr
      cases hw : ofLexemes? (maxDepth - 1) (lexed v.tokens) with
      | none => rw [hw] at hr; cases hr
      | some w =>
          rw [hw] at hr
          cases hr
          rfl

-- ============================================================ failures

/-- Every failure of a provider, whatever it says, comes back as it was from the line of the
response that carries it under any id. An error of a response stands for a failure to get through
unless it is recognized, that is, unless its code is that of a failure and its data names the
subscription where that is unknown; and then it stands for a failure of its own code. -/
theorem failures_survive :
    (∀ (e : ProviderError) (id : RequestId), ∃ r,
        decodeResponse (Server.respond id (.error e.toRpc)).text = .ok r
          ∧ r.id = id ∧ r.result = none ∧ r.error.map ProviderError.ofRpc = some e)
      ∧ ∀ err : Error,
        ((∃ why, ProviderError.ofRpc err = .transport why)
            ↔ ¬ProviderError.Recognized err ∨ err.code = Code.transport)
          ∧ (ProviderError.Recognized err → (ProviderError.ofRpc err).code = err.code) := by
  constructor
  · intro e id
    refine ⟨_, decodeResponse_error id (plain_toRpc e), rfl, rfl, ?_⟩
    rw [Option.map_some, e.ofRpc_received]
  · exact fun err => ⟨ProviderError.ofRpc_eq_transport err, ProviderError.code_ofRpc⟩

end ProviderLink.Rpc
