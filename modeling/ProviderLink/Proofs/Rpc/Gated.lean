/-
What a server makes of its provider, without the server. A gated provider
answers as the provider itself does where its life permits the call, and
otherwise refuses it without asking the provider: before `init` all but
`init` and `initSchema`, after `init` a second one, and after a failure
of `init` everything (`Gated.refusal`).

The refusals are what a client makes of the errors of the server's gate
(`refusal_of_gate`), and where the gate is open the two go on alike.
-/
import ProviderLink.Proofs.Provider.Run
import ProviderLink.Proofs.Rpc.Failure
import ProviderLink.Proofs.Rpc.Server

namespace ProviderLink.Rpc

/-- A provider that is asked only what its life permits. -/
structure Gated (π : Type) where
  provider : π
  lifecycle : Lifecycle

namespace Gated

variable {π : Type}

/-- A provider that nobody called yet. -/
def new (provider : π) : Gated π := ⟨provider, .uninitialized⟩

/-- Why a kind of calls is refused, if it is. -/
def refusal : Lifecycle → Call.Kind → Option ProviderError
  | .uninitialized, .init | .uninitialized, .initSchema => none
  | .uninitialized, _ =>
    some (.unavailable "provider is not initialized; call Plugin.Init first")
  | .ready _, .init =>
    some (.transport "rpc error -32600: provider is already initialized")
  | .ready _, _ => none
  | .failed reason, _ => some (.unavailable ("provider failed to initialize: " ++ reason))

/-- Where the provider is after an answer: only that to `init` moves it. -/
def after (lifecycle : Lifecycle) : Answered → Lifecycle
  | ⟨.init _, .ok config⟩ => .ready config
  | ⟨.init _, .error e⟩ => .failed e.message
  | _ => lifecycle

/-- Refuses a call or hands it to the provider. -/
def call [Provider π] (c : Call) (g : Gated π) : Outcome c.Reply × Gated π :=
  match refusal g.lifecycle c.kind with
  | some e => (.error e, g)
  | none =>
    let (outcome, provider) := Provider.call c g.provider
    (outcome, ⟨provider, after g.lifecycle ⟨c, outcome⟩⟩)

instance [Provider π] : Provider (Gated π) := ⟨call⟩

/-- A call is refused, or asked of the provider. -/
theorem call_eq [Provider π] (c : Call) (g : Gated π) :
    Provider.call c g
      = match refusal g.lifecycle c.kind with
        | some e => (.error e, g)
        | none => ((Provider.call c g.provider).1, ⟨(Provider.call c g.provider).2,
            after g.lifecycle ⟨c, (Provider.call c g.provider).1⟩⟩) := rfl

-- ============================================================ refusals

/-- What the gate refuses, as the client understands it. -/
theorem refusal_of_gate (lifecycle : Lifecycle) (kind : Call.Kind) :
    refusal lifecycle kind
      = match Server.gate lifecycle kind with
        | .ok () => none
        | .error e => some (.ofRpc e.received) := by
  cases lifecycle with
  | uninitialized => cases kind <;> rfl
  | ready => cases kind <;> rfl
  | failed => cases kind <;> rfl

/-- The server keeps count of the provider's life in the same way. -/
theorem lifecycleAfter_eq (lifecycle : Lifecycle) (c : Call) (outcome : Outcome c.Reply) :
    Server.lifecycleAfter lifecycle c outcome = after lifecycle ⟨c, outcome⟩ := by
  cases c with
  | init => cases outcome <;> rfl
  | _ => rfl

/-- A provider that is ready may be called for anything but `init`. -/
theorem refusal_ready {kind : Call.Kind} (h : kind ≠ .init) (config : ProviderConfig) :
    refusal (.ready config) kind = none := by
  cases kind with
  | init => exact absurd rfl h
  | _ => rfl

/-- Only `init` moves the life of a provider. -/
theorem after_of_ne_init {c : Call} (h : c.kind ≠ .init) (lifecycle : Lifecycle)
    (outcome : Outcome c.Reply) : after lifecycle ⟨c, outcome⟩ = lifecycle := by
  cases c with
  | init => exact absurd rfl h
  | _ => rfl

-- =========================================================== permitted

variable [Provider π]

/-- What the provider answers to the calls of a run that are permitted. -/
def permitted : List Call → Gated π → List Answered
  | [], _ => []
  | c :: rest, g =>
    match refusal g.lifecycle c.kind with
    | some _ => permitted rest g
    | none => ⟨c, (Provider.call c g.provider).1⟩ :: permitted rest (Provider.call c g).2

/-- A refused call changes nothing. -/
theorem call_of_some {c : Call} {g : Gated π} {e : ProviderError}
    (h : refusal g.lifecycle c.kind = some e) : Provider.call c g = (.error e, g) := by
  rw [call_eq, h]

/-- A permitted call is the provider's to answer. -/
theorem call_of_none {c : Call} {g : Gated π} (h : refusal g.lifecycle c.kind = none) :
    Provider.call c g = ((Provider.call c g.provider).1, ⟨(Provider.call c g.provider).2,
      after g.lifecycle ⟨c, (Provider.call c g.provider).1⟩⟩) := by
  rw [call_eq, h]

/-- The permitted calls alone lead the provider to the same answers and to the same end. -/
theorem run_permitted (calls : List Call) : ∀ g : Gated π,
    Provider.run ((permitted calls g).map Answered.call) g.provider
      = (permitted calls g, (Provider.run calls g).2.provider) := by
  induction calls with
  | nil => exact fun _ => rfl
  | cons c calls ih =>
      intro g
      rw [Provider.run_cons, permitted]
      cases hrefusal : refusal g.lifecycle c.kind with
      | some e =>
          rw [call_of_some hrefusal]
          exact ih g
      | none =>
          have hrest := ih (Provider.call c g).2
          rw [call_of_none hrefusal] at hrest ⊢
          dsimp only at hrest ⊢
          rw [List.map_cons, Provider.run_cons, hrest]

/-- A record of what reaches the provider holds the permitted calls. -/
theorem run_recorded (calls : List Call) : ∀ (p : π) (before : List Call)
    (lifecycle : Lifecycle),
    Provider.run calls (⟨⟨p, before⟩, lifecycle⟩ : Gated (Recorded π))
      = ((Provider.run calls (⟨p, lifecycle⟩ : Gated π)).1,
        ⟨⟨(Provider.run calls (⟨p, lifecycle⟩ : Gated π)).2.provider,
            before ++ (permitted calls ⟨p, lifecycle⟩).map Answered.call⟩,
          (Provider.run calls (⟨p, lifecycle⟩ : Gated π)).2.lifecycle⟩) := by
  induction calls with
  | nil =>
      intro p before lifecycle
      rw [permitted, List.map_nil, List.append_nil]
      rfl
  | cons c calls ih =>
      intro p before lifecycle
      rw [Provider.run_cons, Provider.run_cons, permitted]
      cases hrefusal : refusal lifecycle c.kind with
      | some e =>
          have hbare : Provider.call c (⟨p, lifecycle⟩ : Gated π) = (.error e, _) :=
            call_of_some hrefusal
          have hrecord : Provider.call c (⟨⟨p, before⟩, lifecycle⟩ : Gated (Recorded π))
              = (.error e, _) := call_of_some hrefusal
          rw [hbare, hrecord, ih]
      | none =>
          have hbare : Provider.call c (⟨p, lifecycle⟩ : Gated π)
              = ((Provider.call c p).1, ⟨(Provider.call c p).2,
                after lifecycle ⟨c, (Provider.call c p).1⟩⟩) := call_of_none hrefusal
          have hrecord : Provider.call c (⟨⟨p, before⟩, lifecycle⟩ : Gated (Recorded π))
              = ((Provider.call c p).1, ⟨⟨(Provider.call c p).2, before ++ [c]⟩,
                after lifecycle ⟨c, (Provider.call c p).1⟩⟩) := call_of_none hrefusal
          rw [hbare, hrecord, ih]
          simp only [List.map_cons, List.append_assoc, List.singleton_append]

end Gated

end ProviderLink.Rpc
