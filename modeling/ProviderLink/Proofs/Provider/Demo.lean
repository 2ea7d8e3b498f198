/-
What is to be known of the demonstration provider from outside. Its
answers fit into the lines that a server sends of them, whatever it is
asked (`fits_call`): its schemas and types are a few fixed ones, and all
other replies are flat.

And of its store: a call that changes no subscription leaves it as it is
(`call_of_kind`), and any call is a run of steps of a shared store with no
other callers (`exists_run_call`), so that what is sound stays sound and a
spent id stays spent.
-/
import ProviderLink.Proofs.Ordered
import ProviderLink.Proofs.Rpc.LocalClient
import ProviderLink.Proofs.Subscription.Shared

namespace ProviderLink.Demo

open Json Rpc

-- ============================================================== answers

theorem eq_double_of_action {name : String} {a : Action Id}
    (h : functions.action name = .ok a) : a = double := by
  unfold Registry.action functions at h
  rw [Dict.get?_cons] at h
  by_cases hname : name = "double"
  · rw [if_pos hname] at h
    exact (Except.ok.inj h).symm
  · rw [if_neg hname] at h
    cases h

theorem eq_webhook_of_trigger {key : String} {t : Function}
    (h : functions.trigger key = .ok t) : t = webhook := by
  unfold Registry.trigger functions at h
  rw [Dict.get?_cons] at h
  by_cases hkey : key = "webhook"
  · rw [if_pos hkey] at h
    exact (Except.ok.inj h).symm
  · rw [if_neg hkey] at h
    cases h

/-- A reply of bytes fits. -/
theorem depth_dataJson (bytes : Bytes) : (dataJson bytes).canonical.depth + 1 < maxDepth := by
  have hle := depth_canonical_le (dataJson bytes)
  have hdepth : (dataJson bytes).depth = 1 := rfl
  have hmax : maxDepth = 128 := rfl
  omega

/-- The schema of `double`. -/
theorem ordered_doubleSchema :
    (attributes [("amount", .number, true), ("note", .string, false)]).Ordered := by
  decide

/-- The schema of subscriptions. -/
theorem triggerConfigurationSchema_eq : functions.triggerConfigurationSchema
    = .ok ⟨[], [("webhook",
        ⟨"webhook", ⟨[("path", ⟨"path", .primitive .string, true⟩)], []⟩, false⟩)]⟩ := rfl

theorem ordered_triggerConfigurationSchema {schema : ObjectSchema}
    (h : functions.triggerConfigurationSchema = .ok schema) : schema.Ordered := by
  cases triggerConfigurationSchema_eq.symm.trans h
  decide

/-- Whatever the provider answers fits into a line. -/
theorem fits_call (c : Call) (d : Demo) : Answered.Fits ⟨c, (Provider.call c d).1⟩ := by
  cases h : (Provider.call c d).1 with
  | error e => exact trivial
  | ok reply =>
      cases c with
      | init runner => exact Answered.fits_init runner (.ok reply)
      | initSchema =>
          cases h
          exact fits_demo_initSchema
      | mapPayloadToTriggerKey payload =>
          refine ⟨trivial, ?_⟩
          change 0 + 1 < maxDepth
          decide
      | actionNames | triggerKeyNames =>
          cases h
          exact ⟨trivial, by decide⟩
      | actionEvaluate | createSubscription | readSubscription | updateSubscription =>
          exact ⟨trivial, depth_dataJson reply⟩
      | deleteSubscription =>
          refine ⟨trivial, ?_⟩
          change 0 + 1 < maxDepth
          decide
      | actionConfigurationSchema name =>
          obtain ⟨a, ha, hreply⟩ := bind_eq_ok.1 h
          rw [eq_double_of_action ha] at hreply
          cases hreply
          refine ⟨ordered_doubleSchema, ?_⟩
          change (ObjectSchema.toJson (attributes _)).canonical.depth + 1 < maxDepth
          decide
      | actionOutputType name =>
          obtain ⟨a, ha, hreply⟩ := bind_eq_ok.1 h
          rw [eq_double_of_action ha] at hreply
          cases hreply
          exact fits_demo_outputType
      | triggerOutputType key =>
          obtain ⟨t, ht, hreply⟩ := bind_eq_ok.1 h
          rw [eq_webhook_of_trigger ht] at hreply
          cases hreply
          refine ⟨trivial, ?_⟩
          change (Descriptor.toJson .dynamic).canonical.depth + 1 < maxDepth
          decide
      | triggerConfigurationSchema =>
          refine ⟨ordered_triggerConfigurationSchema h, ?_⟩
          have hreply := triggerConfigurationSchema_eq.symm.trans h
          cases hreply
          decide

-- ================================================================ store

/-- A call that changes no subscription leaves the provider as it is. -/
theorem call_of_kind {c : Call} (hcreate : c.kind ≠ .createSubscription)
    (hupdate : c.kind ≠ .updateSubscription) (hdelete : c.kind ≠ .deleteSubscription) (d : Demo) :
    (Provider.call c d).2 = d := by
  cases c with
  | createSubscription => exact absurd rfl hcreate
  | updateSubscription => exact absurd rfl hupdate
  | deleteSubscription => exact absurd rfl hdelete
  | _ => rfl

/-- Updating is an access to a live subscription, or it fails and changes nothing. -/
theorem updateSubscription_cases (contextId id : String) (input : Bytes) (s : Store) :
    (∃ e, updateSubscription contextId id input s = (.error e, s)) ∨
      ∃ state record, s.read contextId id = .ok record ∧ stateOf id input = .ok state ∧
        updateSubscription contextId id input s
          = (.ok state, (s.access (.update state) ⟨contextId, id⟩).2) := by
  unfold updateSubscription
  cases hread : s.read contextId id with
  | error e => exact Or.inl ⟨e, rfl⟩
  | ok record =>
      cases hstate : stateOf id input with
      | error e => exact Or.inl ⟨e, rfl⟩
      | ok state =>
          refine Or.inr ⟨state, record, rfl, rfl, ?_⟩
          simp only [Store.access, Store.update, hread]
          rfl

/-- Creating settles what was built for the id that comes next. -/
theorem call_createSubscription (contextId : String) (input : Bytes) (d : Demo) :
    Provider.call (.createSubscription contextId input) d
      = ((Store.settle contextId d.subscriptions.reserve.1
            (stateOf d.subscriptions.reserve.1 input) d.subscriptions.reserve.2).1.map
          Subscription.state,
        { d with subscriptions := (Store.settle contextId d.subscriptions.reserve.1
            (stateOf d.subscriptions.reserve.1 input) d.subscriptions.reserve.2).2 }) := rfl

/-- What is built for the id that comes next is what is kept. -/
theorem createSubscription_of_stateOf {id contextId : String} {input state : Bytes} {d : Demo}
    {s : Store} (hreserve : d.subscriptions.reserve = (id, s)) (h : stateOf id input = .ok state) :
    Provider.call (.createSubscription contextId input) d
      = (.ok state, { d with subscriptions := (s.settle contextId id (.ok state)).2 }) := by
  rw [call_createSubscription, hreserve]
  dsimp only
  rw [h]
  rfl

/-- To its store, a call is a run of steps that leaves no creation under way. -/
theorem exists_run_call (c : Call) (d : Demo) :
    ∃ events, Store.Shared.Run ⟨d.subscriptions, []⟩ events
      ⟨(Provider.call c d).2.subscriptions, []⟩ := by
  cases c with
  | createSubscription contextId input =>
      have hrun : Store.Shared.Run ⟨d.subscriptions, []⟩ _
          ⟨(d.subscriptions.create contextId fun id s => (stateOf id input, s)).2, _⟩ :=
        Store.Shared.create_run (List.mem_singleton_self _) (.nil _)
      rw [List.erase_cons_head] at hrun
      exact ⟨_, hrun⟩
  | updateSubscription contextId id input =>
      have hstore : (Provider.call (.updateSubscription contextId id input) d).2.subscriptions
          = (updateSubscription contextId id input d.subscriptions).2 := rfl
      rw [hstore]
      rcases updateSubscription_cases contextId id input d.subscriptions with
        ⟨e, hupdate⟩ | ⟨state, record, -, -, hupdate⟩
      · rw [hupdate]
        exact ⟨[], .nil _⟩
      · rw [hupdate]
        exact ⟨_, .cons (.access ⟨d.subscriptions, []⟩ (.update state) ⟨contextId, id⟩) (.nil _)⟩
  | deleteSubscription contextId id =>
      exact ⟨_, .cons (.access _ .delete ⟨contextId, id⟩) (.nil _)⟩
  | _ => exact ⟨[], .nil _⟩

end ProviderLink.Demo
