/-
A call comes back from its method's parameters, and a reply from its
method's result: `callOf` undoes `Call.params` (`callOf_params`) and
`Call.readReply` undoes `Call.replyJson` (`readReply_replyJson`). Both
laws speak of tables in key order, which is how tables are kept
(`Call.Ordered`, `Call.OrderedReply`).

Neither side ever writes a double, so what is written is legible; and
parameters are flat, while a reply may nest as deep as the schema or the
type that it is.
-/
import ProviderLink.Proofs.Rpc.Params
import ProviderLink.Rpc.Method

namespace ProviderLink

open Json Rpc

namespace Call

-- ============================================================= ordered

/-- The table that a call hands over, if any, is in key order. -/
def Ordered : Call → Prop
  | init runner => Dict.Sorted runner.userConfig
  | _ => True

/-- Only `init` hands over a table. -/
theorem ordered_of_ne_init {c : Call} (h : c.kind ≠ .init) : c.Ordered := by
  cases c with
  | init => exact absurd rfl h
  | _ => trivial

/-- The tables in a reply are in key order. -/
def OrderedReply : (c : Call) → c.Reply → Prop
  | initSchema, s | actionConfigurationSchema _, s | triggerConfigurationSchema, s =>
    ObjectSchema.Ordered s
  | actionOutputType _, t | triggerOutputType _, t => Descriptor.Ordered t
  | init _, _ | mapPayloadToTriggerKey _, _ | actionNames, _ | actionEvaluate _ _ _, _
  | triggerKeyNames, _ | createSubscription _ _, _ | readSubscription _ _, _
  | updateSubscription _ _ _, _ | deleteSubscription _ _, _ => True

end Call

-- ============================================================== params

namespace Rpc

theorem parseParams_ok {α : Type} {m : Method} {read : Json.Reader α} {params : Json} {p : α}
    (h : read params = .ok p) : parseParams m read params = .ok p := by
  rw [parseParams, h]

theorem parseParams_error {α : Type} {m : Method} {read : Json.Reader α} {params : Json}
    {fault : Fault} (h : read params = .error fault) :
    parseParams m read params = .error ⟨Code.invalidParams,
      "invalid params for " ++ m.name ++ ": " ++ fault.message, none⟩ := by
  rw [parseParams, h]

/-- A call comes back from its parameters. -/
theorem callOf_params {c : Call} (h : c.Ordered) : callOf c.kind c.params = .ok c := by
  cases c with
  | init runner =>
      have hp := parseParams_ok (m := .call .init) (readInit_canonical h)
      simp only [Call.kind, Call.params, callOf, hp]
      rfl
  | initSchema | actionNames | triggerKeyNames | triggerConfigurationSchema => rfl
  | mapPayloadToTriggerKey payload =>
      have hp := parseParams_ok (m := .call .mapPayloadToTriggerKey)
        (readPayload_canonical payload)
      simp only [Call.kind, Call.params, callOf, hp]
      rfl
  | actionEvaluate contextId name input =>
      have hp := parseParams_ok (m := .call .actionEvaluate)
        (ActionEvalParams.read_canonical ⟨contextId, name, input⟩)
      simp only [Call.kind, Call.params, callOf, hp]
      rfl
  | actionConfigurationSchema name =>
      have hp := parseParams_ok (m := .call .actionConfigurationSchema)
        (readName_canonical name)
      simp only [Call.kind, Call.params, callOf, hp]
      rfl
  | actionOutputType name =>
      have hp := parseParams_ok (m := .call .actionOutputType) (readName_canonical name)
      simp only [Call.kind, Call.params, callOf, hp]
      rfl
  | triggerOutputType key =>
      have hp := parseParams_ok (m := .call .triggerOutputType) (readName_canonical key)
      simp only [Call.kind, Call.params, callOf, hp]
      rfl
  | createSubscription contextId input =>
      have hp := parseParams_ok (m := .call .createSubscription)
        (SubscriptionParams.read_canonical ⟨contextId, none, some input⟩)
      simp only [Call.kind, Call.params, callOf, hp]
      rfl
  | readSubscription contextId id =>
      have hp := parseParams_ok (m := .call .readSubscription)
        (SubscriptionParams.read_canonical ⟨contextId, some id, none⟩)
      simp only [Call.kind, Call.params, callOf, hp]
      rfl
  | updateSubscription contextId id input =>
      have hp := parseParams_ok (m := .call .updateSubscription)
        (SubscriptionParams.read_canonical ⟨contextId, some id, some input⟩)
      simp only [Call.kind, Call.params, callOf, hp]
      rfl
  | deleteSubscription contextId id =>
      have hp := parseParams_ok (m := .call .deleteSubscription)
        (SubscriptionParams.read_canonical ⟨contextId, some id, none⟩)
      simp only [Call.kind, Call.params, callOf, hp]
      rfl

end Rpc

namespace Call

/-- Parameters hold no number. -/
theorem legible_params (c : Call) : c.params.Legible := by
  cases c with
  | init runner => exact legible_canonical _ (legible_initJson runner)
  | initSchema | actionNames | triggerKeyNames | triggerConfigurationSchema => trivial
  | mapPayloadToTriggerKey | actionConfigurationSchema | actionOutputType
  | triggerOutputType => exact legible_canonical _ ⟨trivial, trivial⟩
  | createSubscription | readSubscription | deleteSubscription =>
      exact legible_canonical _ ⟨trivial, trivial, trivial⟩
  | actionEvaluate | updateSubscription =>
      exact legible_canonical _ ⟨trivial, trivial, trivial, trivial⟩

/-- Parameters are in canonical form. -/
theorem canonical_params (c : Call) : c.params.canonical = c.params := by
  cases c with
  | initSchema | actionNames | triggerKeyNames | triggerConfigurationSchema =>
      exact canonical_null
  | init | mapPayloadToTriggerKey | actionEvaluate | actionConfigurationSchema
  | actionOutputType | triggerOutputType | createSubscription | readSubscription
  | updateSubscription | deleteSubscription => exact canonical_canonical _

/-- Parameters nest two levels at most, and all but those of `init` one. -/
theorem depth_params_le (c : Call) : c.params.depth ≤ 2 := by
  cases c with
  | init runner => exact Nat.le_trans (depth_canonical_le _) (depth_initJson_le runner)
  | initSchema | actionNames | triggerKeyNames | triggerConfigurationSchema =>
      exact Nat.zero_le 2
  | mapPayloadToTriggerKey | actionConfigurationSchema | actionOutputType
  | triggerOutputType | createSubscription | readSubscription | deleteSubscription
  | actionEvaluate | updateSubscription =>
      exact Nat.le_trans (depth_canonical_le _) (Nat.le_succ 1)

-- ============================================================= replies

/-- A reply comes back from its result. -/
theorem readReply_replyJson {c : Call} {r : c.Reply} (h : c.OrderedReply r) :
    c.readReply (c.replyJson r) = .ok r := by
  cases c with
  | init => exact ProviderConfig.read_canonical r
  | initSchema | actionConfigurationSchema | triggerConfigurationSchema =>
      exact ObjectSchema.read_canonical h
  | mapPayloadToTriggerKey => rfl
  | actionNames | triggerKeyNames => exact readList_strings r
  | actionEvaluate | createSubscription | readSubscription | updateSubscription =>
      exact readData_canonical r
  | actionOutputType | triggerOutputType => exact Descriptor.read_canonical h
  | deleteSubscription => rfl

/-- Results hold no number. -/
theorem legible_replyJson (c : Call) (r : c.Reply) : (c.replyJson r).Legible := by
  cases c with
  | init => exact legible_canonical _ ⟨trivial, trivial⟩
  | initSchema | actionConfigurationSchema | triggerConfigurationSchema =>
      exact legible_canonical _ (ObjectSchema.legible_toJson r)
  | mapPayloadToTriggerKey => trivial
  | actionNames | triggerKeyNames =>
      refine legibleItems_iff.2 fun v hv => ?_
      obtain ⟨s, -, rfl⟩ := List.mem_map.1 hv
      exact trivial
  | actionEvaluate | createSubscription | readSubscription | updateSubscription =>
      exact legible_canonical _ ⟨trivial, trivial⟩
  | actionOutputType | triggerOutputType =>
      exact legible_canonical _ (Descriptor.legible_toJson r)
  | deleteSubscription => trivial

/-- A result is in canonical form. -/
theorem canonical_replyJson (c : Call) (r : c.Reply) :
    (c.replyJson r).canonical = c.replyJson r := by
  cases c with
  | init | initSchema | actionConfigurationSchema | triggerConfigurationSchema
  | actionEvaluate | createSubscription | readSubscription | updateSubscription
  | actionOutputType | triggerOutputType => exact canonical_canonical _
  | mapPayloadToTriggerKey => exact canonical_string r
  | deleteSubscription => exact canonical_null
  | actionNames | triggerKeyNames =>
      refine canonical_of_ordered _ (orderedItems_iff.2 fun v hv => ?_)
      obtain ⟨s, -, rfl⟩ := List.mem_map.1 hv
      exact trivial

end Call

end ProviderLink
