/-
A provider's failure survives the wire: what a failure becomes as the
error of a response, as that error arrives at the other end, stands for
the very same failure (`ofRpc_received`). The kind is in the code, and
no two kinds share one; the rest is in the data, found there by name.

Conversely an error stands for a failure of its own code exactly if it
is recognized: its code is that of a failure, and where it speaks of a
subscription its data names it. Any other error comes to `transport`.
-/
import ProviderLink.Proofs.Rpc.Message
import ProviderLink.Rpc.Failure

namespace ProviderLink

namespace Rpc.Code

/-- The codes of the protocol itself. -/
def protocol : List Int32 := [parseError, invalidRequest, methodNotFound, invalidParams]

/-- The codes of the failures of a provider. -/
def domain : List Int32 :=
  [unavailable, invalidTypeRepresentation, schemaMismatch, unknownAction, unknownTrigger,
    unknownSubscription, invalidSchema, failed, transport]

end Rpc.Code

namespace ProviderError

open Json Rpc

/-- No failure has a code of the protocol. -/
theorem code_notMem_protocol (e : ProviderError) : e.code ∉ Code.protocol := by
  cases e <;> simp only [code] <;> decide

/-- A failure with the code of `transport` is one. -/
theorem eq_transport_of_code {e : ProviderError} (h : e.code = Code.transport) :
    ∃ why, e = .transport why := by
  cases e with
  | transport why => exact ⟨why, rfl⟩
  | _ => exact nomatch h

-- ============================================================= arriving

/-- The data of a failure is there to arrive. -/
theorem received_toRpc (e : ProviderError) :
    e.toRpc.received = ⟨e.code, e.message, some e.data.canonical⟩ := by
  have hdata : e.data ≠ .null := by
    cases e <;> exact fun h => by cases h
  rw [toRpc, Error.received, arrived_of_ne_null hdata]

/-- A text in data that holds each name once. -/
theorem dataText?_object (code : Int32) (message : String)
    {members : List (String × Json)} (h : (Dict.keys members).Nodup) (name : String) :
    dataText? ⟨code, message, some (object members).canonical⟩ name
      = (Dict.get? name members).bind fun v => v.canonical.string? := by
  have htext : dataText? ⟨code, message, some (object members).canonical⟩ name
      = ((object members).canonical.member? name).bind string? := rfl
  rw [htext, member?_canonical h, Option.bind_map]
  rfl

/-- A failure comes back from the error that arrives for it. -/
theorem ofRpc_received (e : ProviderError) : ofRpc e.toRpc.received = e := by
  have hdetail : ∀ code message detail,
      dataText? ⟨code, message, some (object [("detail", .string detail)]).canonical⟩ "detail"
        = some detail := by
    intro code message detail
    rw [dataText?_object _ _ (by simp)]
    simp [Dict.get?_cons, string?]
  rw [received_toRpc]
  cases e with
  | unknownSubscription contextId subscriptionId =>
      have hid : ∀ code message name, name = "context_id" ∨ name = "subscription_id" →
          dataText? ⟨code, message, some (unknownSubscription contextId
              subscriptionId).data.canonical⟩ name
            = some (if name = "context_id" then contextId else subscriptionId) := by
        intro code message name hname
        rw [data, dataText?_object _ _ (by simp)]
        rcases hname with rfl | rfl <;> simp [Dict.get?_cons, string?]
      simp only [ofRpc, hid _ _ "context_id" (Or.inl rfl),
        hid _ _ "subscription_id" (Or.inr rfl)]
      rfl
  | invalidTypeRepresentation | schemaMismatch | invalidSchema | unknownAction
  | unknownTrigger | failed | unavailable | transport =>
      simp only [ofRpc, data, code, hdetail]
      rfl

-- ========================================================== recognizing

/-- The data of an error holds a text under a name. -/
def HasText (err : Rpc.Error) (name text : String) : Prop :=
  ∃ members, err.data = some (.object members) ∧ Dict.get? name members = some (.string text)

/-- An error that stands for a failure: it has the code of one, and data that names the
subscription where that is unknown. -/
structure Recognized (err : Rpc.Error) : Prop where
  code : err.code ∈ Code.domain
  ids : err.code = Code.unknownSubscription →
    ∃ contextId subscriptionId, HasText err "context_id" contextId
      ∧ HasText err "subscription_id" subscriptionId

/-- A text in the data of an error is what is there under its name. -/
theorem dataText?_eq_some {err : Rpc.Error} {name text : String} :
    dataText? err name = some text ↔ HasText err name text := by
  constructor
  · intro h
    obtain ⟨v, hdata, hv⟩ := Option.bind_eq_some_iff.1 h
    obtain ⟨w, hmember, hw⟩ := Option.bind_eq_some_iff.1 hv
    cases v with
    | object members =>
        cases w with
        | string s =>
            cases hw
            exact ⟨members, hdata, hmember⟩
        | _ => cases hw
    | _ => cases hmember
  · rintro ⟨members, hdata, hmember⟩
    rw [dataText?, hdata, Option.bind_some, text?, member?, hmember]
    rfl

/-- A recognized error stands for a failure of that very code. -/
theorem code_ofRpc {err : Rpc.Error} (h : Recognized err) : (ofRpc err).code = err.code := by
  by_cases hids : err.code = Code.unknownSubscription
  · obtain ⟨contextId, subscriptionId, hcontext, hsubscription⟩ := h.ids hids
    simp only [ofRpc, hids, dataText?_eq_some.2 hcontext, dataText?_eq_some.2 hsubscription]
    rfl
  · have hcode := h.code
    simp only [Code.domain, List.mem_cons, List.not_mem_nil, or_false] at hcode
    rcases hcode with hc | hc | hc | hc | hc | hc | hc | hc | hc
    case inr.inr.inr.inr.inr.inl => exact absurd hc hids
    all_goals
      simp only [ofRpc, hc]
      rfl

/-- Any other error stands for a failure to get through. -/
theorem ofRpc_unrecognized {err : Rpc.Error} (h : ¬Recognized err) :
    ∃ why, ofRpc err = .transport why := by
  by_cases hids : err.code = Code.unknownSubscription
  · refine ⟨"unknown-subscription error without ids: " ++ err.message, ?_⟩
    cases hcontext : dataText? err "context_id" with
    | none =>
        simp only [ofRpc, hids, hcontext]
        rfl
    | some contextId =>
        cases hsubscription : dataText? err "subscription_id" with
        | none =>
            simp only [ofRpc, hids, hcontext, hsubscription]
            rfl
        | some subscriptionId =>
            refine absurd ⟨by rw [hids]; decide, fun _ => ?_⟩ h
            exact ⟨contextId, subscriptionId, dataText?_eq_some.1 hcontext,
              dataText?_eq_some.1 hsubscription⟩
  · have hcode : err.code ∉ Code.domain := fun hmem => h ⟨hmem, fun heq => absurd heq hids⟩
    simp only [Code.domain, List.mem_cons, List.not_mem_nil, or_false, not_or] at hcode
    refine ⟨"rpc error " ++ toString err.code.toInt ++ ": " ++ err.message, ?_⟩
    simp only [ofRpc, hcode, if_false]

/-- An error stands for a failure to get through unless it is recognized and has another code
than that failure. -/
theorem ofRpc_eq_transport (err : Rpc.Error) :
    (∃ why, ofRpc err = .transport why) ↔ ¬Recognized err ∨ err.code = Code.transport := by
  constructor
  · rintro ⟨why, hwhy⟩
    by_cases h : Recognized err
    · refine Or.inr ?_
      rw [← code_ofRpc h, hwhy]
      rfl
    · exact Or.inl h
  · intro h
    by_cases hrecognized : Recognized err
    · have hcode : err.code = Code.transport := h.resolve_left (not_not_intro hrecognized)
      exact eq_transport_of_code ((code_ofRpc hrecognized).trans hcode)
    · exact ofRpc_unrecognized hrecognized

end ProviderError

end ProviderLink
