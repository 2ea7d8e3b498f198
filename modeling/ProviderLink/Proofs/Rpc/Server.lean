/-
What a server does with a line. A request that a client writes is read
as it was sent (`handleLine_text`), and on a connection past its
handshake a call's method asks for that very call, if the provider may
be called so (`dispatch_call`, `callFor_params`).

Whatever is asked, it is refused and nothing has happened, or it is a
handshake, or one call is performed (`dispatch_cases`). So the server
comes out of any line as it was or with one call performed that its
provider's life let through (`handleLine_server`): the gate is the same
for a call that a client wrote and for one that was made up.
-/
import ProviderLink.Proofs.Outcome
import ProviderLink.Proofs.Rpc.Message
import ProviderLink.Proofs.Rpc.Method
import ProviderLink.Rpc.Server

namespace ProviderLink.Rpc

open Json

/-- A connection whose handshake is complete. -/
def Connection.established : Connection := ⟨true, false⟩

namespace Server

variable {π : Type}

-- ================================================================ gate

/-- Whether the provider may be called in some way, or why not. -/
def gate (lifecycle : Lifecycle) : Call.Kind → Except Error Unit
  | .init => requireUninitialized lifecycle
  | .initSchema => requireNotFailed lifecycle
  | _ => requireReady lifecycle

/-- After a failure the gate lets nothing through. -/
theorem gate_failed (reason : String) (kind : Call.Kind) :
    gate (.failed reason) kind = .error (failedInit reason) := by
  cases kind <;> rfl

/-- Parameters that are read belong to a call of the kind they are read for. -/
theorem kind_of_callOf {kind : Call.Kind} {params : Json} {c : Call}
    (h : callOf kind params = .ok c) : c.kind = kind := by
  have hmap : ∀ {α : Type} {x : Except Error α} {f : α → Call},
      (∀ a, (f a).kind = kind) → x.map f = .ok c → c.kind = kind := by
    intro α x f hf hx
    cases x with
    | error => cases hx
    | ok a => cases hx; exact hf a
  cases kind with
  | initSchema | actionNames | triggerKeyNames | triggerConfigurationSchema =>
      cases h
      rfl
  | init | mapPayloadToTriggerKey | actionEvaluate | actionConfigurationSchema
  | actionOutputType | triggerOutputType => exact hmap (fun _ => rfl) h
  | createSubscription | readSubscription | deleteSubscription =>
      obtain ⟨_, -, h⟩ := bind_eq_ok.1 h
      obtain ⟨_, -, h⟩ := bind_eq_ok.1 h
      cases h
      rfl
  | updateSubscription =>
      obtain ⟨_, -, h⟩ := bind_eq_ok.1 h
      obtain ⟨_, -, h⟩ := bind_eq_ok.1 h
      obtain ⟨_, -, h⟩ := bind_eq_ok.1 h
      cases h
      rfl

/-- All methods but `init` ask the gate first and then read their parameters. -/
theorem callFor_of_ne {kind : Call.Kind} (h : kind ≠ .init) (lifecycle : Lifecycle)
    (params : Json) :
    callFor lifecycle kind params
      = (gate lifecycle kind).bind fun _ => callOf kind params := by
  cases kind with
  | init => exact absurd rfl h
  | _ => rfl

/-- `init` reads its parameters first. -/
theorem callFor_init (lifecycle : Lifecycle) (params : Json) :
    callFor lifecycle .init params
      = (callOf .init params).bind fun c => (gate lifecycle .init).bind fun _ => .ok c :=
  rfl

/-- A call is let through by the gate of its kind. -/
theorem gate_of_callFor {lifecycle : Lifecycle} {kind : Call.Kind} {params : Json}
    {c : Call} (h : callFor lifecycle kind params = .ok c) :
    gate lifecycle c.kind = .ok () := by
  by_cases hinit : kind = .init
  · subst hinit
    rw [callFor_init] at h
    obtain ⟨d, hd, h⟩ := bind_eq_ok.1 h
    obtain ⟨_, hgate, h⟩ := bind_eq_ok.1 h
    cases h
    rw [kind_of_callOf hd]
    exact hgate
  · rw [callFor_of_ne hinit] at h
    obtain ⟨_, hgate, hcall⟩ := bind_eq_ok.1 h
    rw [kind_of_callOf hcall]
    exact hgate

/-- The parameters of a call ask for that call. -/
theorem callFor_params {c : Call} (h : c.Ordered) (lifecycle : Lifecycle) :
    callFor lifecycle c.kind c.params = (gate lifecycle c.kind).map fun _ => c := by
  have hcall := callOf_params h
  by_cases hinit : c.kind = .init
  · rw [hinit] at hcall ⊢
    rw [callFor_init, hcall]
    cases gate lifecycle .init <;> rfl
  · rw [callFor_of_ne hinit, hcall]
    cases gate lifecycle c.kind <;> rfl

-- ============================================================ requests

/-- No two methods share a name. -/
theorem name_inj {m n : Method} (h : m.name = n.name) : m = n := by
  have hm := Method.ofName?_name m
  rw [h, Method.ofName?_name] at hm
  exact (Option.some.inj hm).symm

/-- The result that an answer of the provider is sent as. -/
def resultOf (c : Call) : Outcome c.Reply → Except Error Json
  | .ok r => .ok (c.replyJson r)
  | .error e => .error e.toRpc

variable [Provider π]

/-- Performing a call is asking the provider, and keeping count of its life. -/
theorem perform_eq (s : Server π) (c : Call) :
    s.perform c = (resultOf c (Provider.call c s.provider).1,
      ⟨(Provider.call c s.provider).2,
        lifecycleAfter s.lifecycle c (Provider.call c s.provider).1⟩) := rfl

/-- The line of a request is handled as the request. -/
theorem handleLine_text {r : Request} (hl : r.params.Legible)
    (hd : r.params.depth + 1 < maxDepth) (s : Server π) (conn : Connection) :
    s.handleLine conn r.text = s.handleRequest conn r.received := by
  simp only [handleLine, Request.ofText?_text hl hd, Request.read_canonical]

/-- A call's method on a connection past its handshake: why it asks for no call, or the call that
it asks for. -/
theorem dispatch_method {r : Request} {kind : Call.Kind} (h : r.method = (Method.call kind).name)
    (s : Server π) :
    s.dispatch .established r
      = match callFor s.lifecycle kind r.params with
        | .error e => (.error e, s, .established)
        | .ok c => ((s.perform c).1, (s.perform c).2, .established) := by
  have hopen : ¬Connection.established.rejected = true := Bool.false_ne_true
  have hname : r.method ≠ Method.handshake.name := by
    rw [h]
    exact fun heq => nomatch name_inj heq
  have hkind : methodFor .established r.method = .ok kind := by
    rw [h]
    simp only [methodFor, Connection.established, Method.ofName?_name]
    rfl
  cases hcall : callFor s.lifecycle kind r.params with
  | error e => simp only [dispatch, if_neg hopen, if_neg hname, hkind, hcall]
  | ok c => simp only [dispatch, if_neg hopen, if_neg hname, hkind, hcall]

/-- A call's own parameters: refused by the gate, or performed. -/
theorem handleRequest_call {c : Call} (h : c.Ordered) (s : Server π) (id : RequestId) :
    s.handleRequest .established ⟨version, id, c.method.name, c.params⟩
      = match gate s.lifecycle c.kind with
        | .error e => (respond id (.error e), s, .established)
        | .ok () => (respond id (s.perform c).1, (s.perform c).2, .established) := by
  have hdispatch := s.dispatch_method (r := ⟨version, id, c.method.name, c.params⟩) rfl
  rw [callFor_params h] at hdispatch
  simp only [handleRequest, hdispatch]
  rw [if_neg (not_not_intro rfl)]
  cases gate s.lifecycle c.kind <;> rfl

-- ============================================================ dispatch

/-- A handshake is turned down without effect, or it completes the connection, or it has the
connection refused; the latter two only if it is the first that can be read. -/
theorem handshake_cases (conn : Connection) (params : Json) :
    (∃ e, handshake conn params = (.error e, conn))
      ∨ conn.handshakeComplete = false
        ∧ ((∃ v, handshake conn params = (.ok v, { conn with handshakeComplete := true }))
          ∨ ∃ fault : HandshakeFault,
            handshake conn params = (.error fault.toRpc, { conn with rejected := true })) := by
  unfold handshake
  split
  · exact Or.inl ⟨_, rfl⟩
  · next hincomplete =>
    split
    · exact Or.inl ⟨_, rfl⟩
    · refine Or.inr ⟨Bool.eq_false_iff.2 hincomplete, ?_⟩
      split
      · exact Or.inl ⟨_, rfl⟩
      · exact Or.inr ⟨_, rfl⟩

/-- A request is refused without effect, or it is a handshake, or it has one call performed that
the gate lets through; the latter two only on a connection that is not refused, and the last only
past the handshake. -/
theorem dispatch_cases (s : Server π) (conn : Connection) (r : Request) :
    (∃ e, s.dispatch conn r = (.error e, s, conn))
      ∨ (conn.rejected = false ∧ r.method = Method.handshake.name
        ∧ s.dispatch conn r = ((handshake conn r.params).1, s, (handshake conn r.params).2))
      ∨ (conn.handshakeComplete = true ∧ ∃ c, gate s.lifecycle c.kind = .ok ()
        ∧ s.dispatch conn r = ((s.perform c).1, (s.perform c).2, conn)) := by
  unfold dispatch
  split
  · exact Or.inl ⟨_, rfl⟩
  · next hrejected =>
    split
    · next hmethod => exact Or.inr (Or.inl ⟨Bool.eq_false_iff.2 hrejected, hmethod, rfl⟩)
    · split
      · exact Or.inl ⟨_, rfl⟩
      · next kind hkind =>
        split
        · exact Or.inl ⟨_, rfl⟩
        · next c hc =>
          refine Or.inr (Or.inr ⟨?_, c, gate_of_callFor hc, rfl⟩)
          cases hcomplete : conn.handshakeComplete with
          | true => rfl
          | false =>
              rw [methodFor, hcomplete] at hkind
              cases hkind

/-- Only a handshake changes a connection. -/
theorem dispatch_connection (s : Server π) (conn : Connection) {r : Request}
    (h : r.method ≠ Method.handshake.name) : (s.dispatch conn r).2.2 = conn := by
  rcases s.dispatch_cases conn r with ⟨e, heq⟩ | ⟨-, hmethod, -⟩ | ⟨-, c, -, heq⟩
  · rw [heq]
  · exact absurd hmethod h
  · rw [heq]

-- =============================================================== lines

/-- A request leaves the server as it was, or with one call performed that the gate let
through. -/
theorem dispatch_server (s : Server π) (conn : Connection) (r : Request) :
    (s.dispatch conn r).2.1 = s
      ∨ ∃ c, gate s.lifecycle c.kind = .ok () ∧ (s.dispatch conn r).2.1 = (s.perform c).2 := by
  rcases s.dispatch_cases conn r with ⟨e, heq⟩ | ⟨-, -, heq⟩ | ⟨-, c, hgate, heq⟩
  · rw [heq]
    exact Or.inl rfl
  · rw [heq]
    exact Or.inl rfl
  · rw [heq]
    exact Or.inr ⟨c, hgate, rfl⟩

/-- So does a line. -/
theorem handleLine_server (s : Server π) (conn : Connection) (line : String) :
    (s.handleLine conn line).2.1 = s
      ∨ ∃ c, gate s.lifecycle c.kind = .ok ()
          ∧ (s.handleLine conn line).2.1 = (s.perform c).2 := by
  unfold handleLine
  split
  · exact Or.inl rfl
  · split
    · exact Or.inl rfl
    · unfold handleRequest
      split
      · exact Or.inl rfl
      · exact dispatch_server ..

end Server

end ProviderLink.Rpc
