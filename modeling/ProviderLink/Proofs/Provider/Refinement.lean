/-
What the demonstration provider keeps of its subscriptions, told from the
answers that it gave. Of a key there is something to read if it was
created and not deleted since, and that is made of the last input from
which it was created or updated. Three layers stand between the two: the
calls, the building of a state from an input, and the store. What a call
can do to the three together is said once (`Effect`, `effect_call`): it
changes the state of one key, and its answer says so, or it changes no
state, and its answer says nothing of any key.

From there on all is about one key. An answer about another leaves it as
it was, both in the provider and in the log (`Tracks.of_about?_ne`), and
of the answers about the key itself there are three (`Tracks.step`).

States are written as text. What a configuration holds is at most two
objects deep and has no numbers in it, so a state always reads back as
what was written (`ofBytes?_stateOf`).
-/
import ProviderLink.Proofs.Codec.RoundTrip
import ProviderLink.Proofs.Provider.Demo
import ProviderLink.Proofs.Provider.Run

namespace ProviderLink

open Json

-- =============================================================== states

namespace ValueType

/-- A text, or nothing, is legible and flat. -/
theorem shallow_of_string {v : Json} (h : string.Inhabits v) : v.Legible ∧ v.depth ≤ 0 := by
  cases h <;> exact ⟨trivial, Nat.le_refl 0⟩

/-- An object of what is legible and shallow is so too, with one level more. -/
theorem shallow_of_object {fields : List (String × ValueType)} {n : Nat}
    (hfields : ∀ type ∈ fields, ∀ v : Json, v.Ordered → type.2.Inhabits v →
      v.Legible ∧ v.depth ≤ n)
    {v : Json} (hv : v.Ordered) (h : (object fields).Inhabits v) :
    v.Legible ∧ v.depth ≤ n + 1 := by
  cases h with
  | null => exact ⟨trivial, Nat.zero_le _⟩
  | @object _ members named fits =>
      rw [Json.Ordered] at hv
      have hmembers : ∀ e ∈ members, e.2.Legible ∧ e.2.depth ≤ n := by
        intro e he
        have hget := Dict.get?_of_sorted hv.1 he
        obtain ⟨type, htype⟩ := Dict.has_iff.1 (named _ _ hget)
        exact hfields _ (Dict.mem_of_get? htype) e.2 (orderedMembers_iff.1 hv.2 e he)
          (fits _ _ _ hget htype)
      refine ⟨legibleMembers_iff.2 fun e he => (hmembers e he).1, ?_⟩
      rw [Json.depth]
      exact Nat.succ_le_succ (depthMembers_le.2 fun e he => (hmembers e he).2)

end ValueType

namespace Demo

/-- A configuration holds texts, in the blocks of triggers. -/
theorem shallow_config {schema : ObjectSchema} {input : Bytes} {config : Json}
    (hschema : functions.triggerConfigurationSchema = .ok schema)
    (hconfig : Codec.decodeInput input schema = .ok config) :
    config.Ordered ∧ config.Legible ∧ config.depth ≤ 2 := by
  have hs := ordered_triggerConfigurationSchema hschema
  obtain ⟨raw, hread, hsatisfies, rfl⟩ := (Codec.decodeInput_eq_ok hs).1 hconfig
  have hraw := Codec.ordered_of_ofBytes? hread
  have hordered := ObjectSchema.ordered_fill hs hraw
  have hfits : schema.valueType.Inhabits (schema.fill raw) :=
    ((ObjectSchema.satisfies_iff schema hs .root hordered).1
      (ObjectSchema.satisfies_fill hs hraw hsatisfies)).2.1
  refine ⟨hordered, ?_⟩
  cases triggerConfigurationSchema_eq.symm.trans hschema
  have hblock : ∀ type ∈ [("path", ValueType.string)], ∀ v : Json, v.Ordered →
      type.2.Inhabits v → v.Legible ∧ v.depth ≤ 0 :=
    List.forall_mem_singleton.2 fun _ _ => ValueType.shallow_of_string
  have hfields : ∀ type ∈ [("webhook", ValueType.object [("path", .string)])], ∀ v : Json,
      v.Ordered → type.2.Inhabits v → v.Legible ∧ v.depth ≤ 1 :=
    List.forall_mem_singleton.2 fun _ => ValueType.shallow_of_object hblock
  exact ValueType.shallow_of_object hfields hordered hfits

/-- The value of a state: the configuration of the subscription and its id. -/
def stateJson (id : String) (config : Json) : Json :=
  .object [("config", config), ("subscription_id", .string id)]

theorem stateOf_eq_ok {id : String} {input state : Bytes} :
    stateOf id input = .ok state ↔ ∃ schema config,
      functions.triggerConfigurationSchema = .ok schema ∧
      Codec.decodeInput input schema = .ok config ∧
      state = (stateJson id config).text.toUTF8 := by
  constructor
  · intro h
    obtain ⟨schema, hschema, h⟩ := bind_eq_ok.1 h
    obtain ⟨config, hconfig, h⟩ := bind_eq_ok.1 h
    cases h
    exact ⟨schema, config, hschema, hconfig, rfl⟩
  · rintro ⟨schema, config, hschema, hconfig, rfl⟩
    exact bind_eq_ok.2 ⟨schema, hschema, bind_eq_ok.2 ⟨config, hconfig, rfl⟩⟩

/-- A state that was built reads back as the object that was written. -/
theorem ofBytes?_stateOf {id : String} {input state : Bytes} (h : stateOf id input = .ok state) :
    ∃ schema config, functions.triggerConfigurationSchema = .ok schema ∧
      Codec.decodeInput input schema = .ok config ∧
      Json.ofBytes? state = some (stateJson id config) := by
  obtain ⟨schema, config, hschema, hconfig, rfl⟩ := stateOf_eq_ok.1 h
  obtain ⟨hordered, hlegible, hdepth⟩ := shallow_config hschema hconfig
  have hstate : (stateJson id config).Ordered := by
    refine ⟨?_, hordered, trivial, trivial⟩
    simp only [Dict.Sorted, List.pairwise_pair]
    decide
  have hmembers : Json.depthMembers [("config", config), ("subscription_id", .string id)] ≤ 2 :=
    depthMembers_le.2 <| List.forall_mem_cons.2
      ⟨hdepth, List.forall_mem_singleton.2 (Nat.zero_le _)⟩
  have hnesting : (stateJson id config).depth < Json.maxDepth := by
    have hdepth : (stateJson id config).depth
        = Json.depthMembers [("config", config), ("subscription_id", .string id)] + 1 := rfl
    have hmax : Json.maxDepth = 128 := rfl
    omega
  exact ⟨schema, config, hschema, hconfig,
    (Json.ofBytes?_text_iff hstate hnesting).2 ⟨hlegible, trivial, trivial⟩⟩

/-- The id of the subscription that a state is of. -/
def subscriptionId? (state : Bytes) : Option String :=
  (Json.ofBytes? state).bind (Json.text? "subscription_id")

theorem subscriptionId?_stateOf {id : String} {input state : Bytes}
    (h : stateOf id input = .ok state) : subscriptionId? state = some id := by
  obtain ⟨schema, config, -, -, hread⟩ := ofBytes?_stateOf h
  rw [subscriptionId?, hread]
  rfl

/-- The state that is kept for a key. -/
def state? (d : Demo) (k : SubscriptionKey) : Option Bytes :=
  (Dict.get? k d.subscriptions.live).map Subscription.state

/-- Reading gives what is kept, or says that there is nothing. -/
theorem readSubscription_eq (d : Demo) (contextId id : String) :
    (Provider.call (.readSubscription contextId id) d).1
      = match d.state? ⟨contextId, id⟩ with
        | some state => .ok state
        | none => .error (.unknownSubscription contextId id) := by
  change (d.subscriptions.read contextId id).map Subscription.state = _
  unfold Store.read state?
  cases Dict.get? ⟨contextId, id⟩ d.subscriptions.live <;> rfl

theorem readSubscription_eq_ok {d : Demo} {contextId id : String} {state : Bytes} :
    (Provider.call (.readSubscription contextId id) d).1 = .ok state ↔
      d.state? ⟨contextId, id⟩ = some state := by
  rw [readSubscription_eq]
  cases d.state? ⟨contextId, id⟩ with
  | none => exact iff_of_false nofun nofun
  | some kept => simp

-- ============================================================== answers

/-- A creation that gave a key its subscription, made from an input. -/
def Created (k : SubscriptionKey) (input : Bytes) (a : Answered) : Prop :=
  ∃ state, a = ⟨.createSubscription k.contextId input, .ok state⟩ ∧
    subscriptionId? state = some k.subscriptionId

/-- An update of the subscription of a key that took an input. -/
def Updated (k : SubscriptionKey) (input : Bytes) (a : Answered) : Prop :=
  ∃ state, a = ⟨.updateSubscription k.contextId k.subscriptionId input, .ok state⟩

/-- A deletion of the subscription of a key. -/
def Deleted (k : SubscriptionKey) (a : Answered) : Prop :=
  a = ⟨.deleteSubscription k.contextId k.subscriptionId, .ok ()⟩

/-- A creation or an update that took an input for a key. -/
def Took (k : SubscriptionKey) (input : Bytes) (a : Answered) : Prop :=
  Created k input a ∨ Updated k input a

/-- Something happened, and something else has not happened since. -/
def Since (happened undone : Answered → Prop) (log : List Answered) : Prop :=
  ∃ before a after, log = before ++ a :: after ∧ happened a ∧ ∀ b ∈ after, ¬undone b

/-- The key was created and not deleted since. -/
def Live (k : SubscriptionKey) : List Answered → Prop :=
  Since (fun a => ∃ input, Created k input a) (Deleted k)

/-- The last input that was taken for a key. -/
def LastTook (k : SubscriptionKey) (input : Bytes) : List Answered → Prop :=
  Since (Took k input) fun a => ∃ other, Took k other a

theorem since_nil {happened undone : Answered → Prop} : ¬Since happened undone [] := by
  rintro ⟨before, a, after, heq, -⟩
  cases before <;> cases heq

theorem since_concat {happened undone : Answered → Prop} {log : List Answered} {a : Answered} :
    Since happened undone (log ++ [a]) ↔ happened a ∨ Since happened undone log ∧ ¬undone a := by
  constructor
  · rintro ⟨before, b, after, heq, hb, hafter⟩
    rcases List.eq_nil_or_concat after with rfl | ⟨after, c, rfl⟩
    · obtain ⟨-, heq⟩ := List.append_inj' heq rfl
      cases heq
      exact .inl hb
    · rw [List.concat_eq_append, ← List.cons_append, ← List.append_assoc] at heq
      obtain ⟨rfl, hlast⟩ := List.append_inj' heq rfl
      cases hlast
      rw [List.concat_eq_append] at hafter
      exact .inr ⟨⟨before, b, after, rfl, hb,
        fun c hc => hafter c (List.mem_append_left _ hc)⟩, hafter _ (by simp)⟩
  · rintro (ha | ⟨⟨before, b, after, rfl, hb, hafter⟩, ha⟩)
    · exact ⟨log, a, [], rfl, ha, fun _ hc => absurd hc List.not_mem_nil⟩
    · refine ⟨before, b, after ++ [a], by simp, hb, fun c hc => ?_⟩
      rcases List.mem_append.1 hc with hc | hc
      · exact hafter c hc
      · exact List.mem_singleton.1 hc ▸ ha

/-- The key of which an answer says something. -/
def about? : Answered → Option SubscriptionKey
  | ⟨.createSubscription contextId _, .ok state⟩ =>
    (subscriptionId? state).map fun id => ⟨contextId, id⟩
  | ⟨.updateSubscription contextId id _, .ok _⟩ => some ⟨contextId, id⟩
  | ⟨.deleteSubscription contextId id, .ok _⟩ => some ⟨contextId, id⟩
  | _ => none

theorem about?_of_took {k : SubscriptionKey} {input : Bytes} {a : Answered} (h : Took k input a) :
    about? a = some k := by
  rcases h with ⟨state, rfl, hid⟩ | ⟨state, rfl⟩
  · rw [about?, hid]
    rfl
  · rfl

theorem about?_of_deleted {k : SubscriptionKey} {a : Answered} (h : Deleted k a) :
    about? a = some k := by
  rw [h]
  rfl

-- ============================================================== effects

/-- What a call may do to the states that are kept, and how it is answered. -/
inductive Effect (d : Demo) : Answered → Demo → Prop
  | none {a : Answered} {d' : Demo} (hstates : ∀ k, d'.state? k = d.state? k)
    (habout : about? a = Option.none) : Effect d a d'
  | created (k : SubscriptionKey) {input state : Bytes} {d' : Demo}
    (hbuilt : stateOf k.subscriptionId input = .ok state) (hself : d'.state? k = some state)
    (hothers : ∀ k', k' ≠ k → d'.state? k' = d.state? k') :
    Effect d ⟨.createSubscription k.contextId input, .ok state⟩ d'
  | updated (k : SubscriptionKey) {input old state : Bytes} {d' : Demo}
    (hlive : d.state? k = some old) (hbuilt : stateOf k.subscriptionId input = .ok state)
    (hself : d'.state? k = some state) (hothers : ∀ k', k' ≠ k → d'.state? k' = d.state? k') :
    Effect d ⟨.updateSubscription k.contextId k.subscriptionId input, .ok state⟩ d'
  | deleted (k : SubscriptionKey) {d' : Demo} (hself : d'.state? k = Option.none)
    (hothers : ∀ k', k' ≠ k → d'.state? k' = d.state? k') :
    Effect d ⟨.deleteSubscription k.contextId k.subscriptionId, .ok ()⟩ d'

/-- What is kept is what the store reads. -/
theorem state?_eq (d : Demo) (k : SubscriptionKey) :
    d.state? k = ((d.subscriptions.read k.contextId k.subscriptionId).map
      Subscription.state).toOption := by
  unfold state? Store.read
  cases Dict.get? k d.subscriptions.live <;> rfl

theorem effect_call (c : Call) (d : Demo) :
    Effect d ⟨c, (Provider.call c d).1⟩ (Provider.call c d).2 := by
  cases c with
  | createSubscription contextId input =>
      cases hbuilt : stateOf d.subscriptions.reserve.1 input with
      | ok state =>
          rw [createSubscription_of_stateOf rfl hbuilt]
          refine .created ⟨contextId, _⟩ hbuilt ?_ fun k' hne => ?_
          · exact congrArg (Option.map _) (Dict.get?_insert_self ..)
          · exact congrArg (Option.map _) (Dict.get?_insert_of_ne hne ..)
      | error e =>
          rw [call_createSubscription, hbuilt]
          exact .none (fun _ => rfl) rfl
  | updateSubscription contextId id input =>
      have hcall : Provider.call (.updateSubscription contextId id input) d
          = ((updateSubscription contextId id input d.subscriptions).1,
            { d with subscriptions :=
              (updateSubscription contextId id input d.subscriptions).2 }) := rfl
      rw [hcall]
      rcases updateSubscription_cases contextId id input d.subscriptions with
        ⟨e, hupdate⟩ | ⟨state, record, hread, hbuilt, hupdate⟩
      · rw [hupdate]
        exact .none (fun _ => rfl) rfl
      · rw [hupdate]
        have hlive : d.state? ⟨contextId, id⟩ = some record.state := by
          rw [state?_eq, hread]
          rfl
        refine .updated ⟨contextId, id⟩ hlive hbuilt ?_ fun k' hne => ?_
        · rw [state?_eq, Store.read_access_update hread]
          rfl
        · rw [state?_eq, state?_eq, Store.read_access_of_ne hne]
  | deleteSubscription contextId id =>
      have hcall : Provider.call (.deleteSubscription contextId id) d
          = ((d.subscriptions.delete contextId id).1.map fun _ => (),
            { d with subscriptions := (d.subscriptions.delete contextId id).2 }) := rfl
      rw [hcall, Store.delete]
      cases d.subscriptions.read contextId id with
      | error e => exact .none (fun _ => rfl) rfl
      | ok last =>
          refine .deleted ⟨contextId, id⟩ ?_ fun k' hne => ?_
          · exact congrArg (Option.map _) (Dict.get?_erase_self ..)
          · exact congrArg (Option.map _) (Dict.get?_erase_of_ne hne ..)
  | _ => exact .none (fun _ => rfl) rfl

/-- A call that fails leaves what is kept. -/
theorem Effect.states_of_error {d d' : Demo} {c : Call} {outcome : Outcome c.Reply}
    (h : Effect d ⟨c, outcome⟩ d') {e : ProviderError} (he : outcome = .error e)
    (k : SubscriptionKey) : d'.state? k = d.state? k := by
  cases h with
  | none hstates _ => exact hstates k
  | created | updated | deleted => cases he

/-- An update of what is not there is turned down before its input is looked at. -/
theorem updateSubscription_of_none {d : Demo} {contextId id : String} {input : Bytes}
    (h : d.state? ⟨contextId, id⟩ = none) :
    Provider.call (.updateSubscription contextId id input) d
      = (.error (.unknownSubscription contextId id), d) := by
  have hread : d.subscriptions.read contextId id = .error (.unknownSubscription contextId id) := by
    unfold Store.read
    rw [Option.map_eq_none_iff.1 h]
  change ((updateSubscription contextId id input d.subscriptions).1,
    { d with subscriptions := (updateSubscription contextId id input d.subscriptions).2 }) = _
  rw [updateSubscription, hread]

-- ================================================================= runs

variable {k : SubscriptionKey} {log : List Answered} {a : Answered} {d d' : Demo}

/-- What is kept for a key is what the log says of it. -/
structure Tracks (k : SubscriptionKey) (log : List Answered) (d : Demo) : Prop where
  live : (∃ state, d.state? k = some state) ↔ Live k log
  built : ∀ state, d.state? k = some state →
    ∃ input, LastTook k input log ∧ stateOf k.subscriptionId input = .ok state

/-- An answer about another key changes nothing of what the log says. -/
theorem Tracks.of_about?_ne (h : Tracks k log d) (ha : about? a ≠ some k)
    (hstate : d'.state? k = d.state? k) : Tracks k (log ++ [a]) d' := by
  have htook : ∀ input, ¬Took k input a := fun input ht => ha (about?_of_took ht)
  have hdeleted : ¬Deleted k a := fun hd => ha (about?_of_deleted hd)
  have hcreated : ¬∃ input, Created k input a := fun ⟨input, hc⟩ => htook input (.inl hc)
  constructor
  · rw [hstate, h.live, Live, since_concat, or_iff_right hcreated, and_iff_left hdeleted]
  · intro state hd'
    rw [hstate] at hd'
    obtain ⟨input, hlast, hbuilt⟩ := h.built state hd'
    exact ⟨input, since_concat.2 (.inr ⟨hlast, fun ⟨other, ht⟩ => htook other ht⟩), hbuilt⟩

/-- An input that was taken for a key is the last one. -/
theorem tracks_of_took {input state : Bytes} (htook : Took k input a)
    (hlive : Live k (log ++ [a])) (hbuilt : stateOf k.subscriptionId input = .ok state)
    (hstate : d'.state? k = some state) : Tracks k (log ++ [a]) d' := by
  refine ⟨iff_of_true ⟨state, hstate⟩ hlive, fun other hother => ?_⟩
  cases hstate.symm.trans hother
  exact ⟨input, since_concat.2 (.inl htook), hbuilt⟩

/-- A call does to what is kept for a key what its answer adds to the log. -/
theorem Tracks.step (h : Tracks k log d) (he : Effect d a d') : Tracks k (log ++ [a]) d' := by
  cases he with
  | none hstates habout =>
      refine h.of_about?_ne ?_ (hstates k)
      rw [habout]
      nofun
  | @created k₀ input state _ hbuilt hself hothers =>
      have hcreated : Created k₀ input ⟨.createSubscription k₀.contextId input, .ok state⟩ :=
        ⟨state, rfl, subscriptionId?_stateOf hbuilt⟩
      by_cases hk : k = k₀
      · subst hk
        exact tracks_of_took (.inl hcreated) (since_concat.2 (.inl ⟨input, hcreated⟩)) hbuilt hself
      · refine h.of_about?_ne ?_ (hothers k hk)
        rw [about?_of_took (.inl hcreated)]
        exact fun heq => hk (Option.some.inj heq).symm
  | @updated k₀ input old state _ hlive hbuilt hself hothers =>
      by_cases hk : k = k₀
      · subst hk
        refine tracks_of_took (.inr ⟨state, rfl⟩) ?_ hbuilt hself
        exact since_concat.2 (.inr ⟨h.live.1 ⟨old, hlive⟩, fun heq => by cases heq⟩)
      · exact h.of_about?_ne (fun heq => hk (Option.some.inj heq).symm) (hothers k hk)
  | @deleted k₀ _ hself hothers =>
      by_cases hk : k = k₀
      · subst hk
        refine ⟨iff_of_false (fun ⟨_, hs⟩ => nomatch hself.symm.trans hs) fun hlive => ?_,
          fun _ hs => nomatch hself.symm.trans hs⟩
        rcases since_concat.1 hlive with ⟨_, _, heq, -⟩ | ⟨-, hkept⟩
        · cases heq
        · exact hkept rfl
      · exact h.of_about?_ne (fun heq => hk (Option.some.inj heq).symm) (hothers k hk)

theorem tracks_run (calls : List Call) : ∀ {log : List Answered} {d : Demo}, Tracks k log d →
    Tracks k (log ++ (Provider.run calls d).1) (Provider.run calls d).2 := by
  induction calls with
  | nil =>
      intro log d h
      change Tracks k (log ++ []) d
      rwa [List.append_nil]
  | cons c calls ih =>
      intro log d h
      rw [Provider.run_cons, List.append_cons]
      exact ih (h.step (effect_call c d))

/-- The demonstration after calls. -/
def after (failing : Bool) (calls : List Call) : Demo := (Provider.run calls (new failing)).2

/-- What it answered to them. -/
def answers (failing : Bool) (calls : List Call) : List Answered :=
  (Provider.run calls (new failing)).1

theorem tracks_after (failing : Bool) (calls : List Call) (k : SubscriptionKey) :
    Tracks k (answers failing calls) (after failing calls) := by
  have hstart : Tracks k [] (new failing) := ⟨iff_of_false nofun since_nil, nofun⟩
  exact tracks_run calls hstart

/-- Whatever has been asked of the provider, in whatever order and with whatever success, what it
keeps of subscriptions is told by its answers. Reading succeeds if the id was handed out in the
context and not deleted since, and what is read is the object of the id and of the configuration
that the last input taken for it decodes to. A call that fails changes nothing that can be read;
and an update of what is not there says so, whatever its input is. -/
theorem run_refines (failing : Bool) (calls : List Call) :
    (∀ contextId id,
      (∃ state, (Provider.call (.readSubscription contextId id) (after failing calls)).1
        = .ok state) ↔ Live ⟨contextId, id⟩ (answers failing calls)) ∧
    (∀ contextId id state,
      (Provider.call (.readSubscription contextId id) (after failing calls)).1 = .ok state →
      ∃ input schema config, LastTook ⟨contextId, id⟩ input (answers failing calls) ∧
        functions.triggerConfigurationSchema = .ok schema ∧
        Codec.decodeInput input schema = .ok config ∧
        Json.ofBytes? state = some (stateJson id config)) ∧
    (∀ c e contextId id, (Provider.call c (after failing calls)).1 = .error e →
      (Provider.call (.readSubscription contextId id)
          (Provider.call c (after failing calls)).2).1
        = (Provider.call (.readSubscription contextId id) (after failing calls)).1) ∧
    ∀ contextId id input, ¬Live ⟨contextId, id⟩ (answers failing calls) →
      Provider.call (.updateSubscription contextId id input) (after failing calls)
        = (.error (.unknownSubscription contextId id), after failing calls) := by
  have htracks := tracks_after failing calls
  refine ⟨fun contextId id => ?_, fun contextId id state hread => ?_,
    fun c e contextId id herror => ?_, fun contextId id input hdead => ?_⟩
  · exact (exists_congr fun _ => readSubscription_eq_ok).trans (htracks ⟨contextId, id⟩).live
  · obtain ⟨input, hlast, hbuilt⟩ :=
      (htracks ⟨contextId, id⟩).built state (readSubscription_eq_ok.1 hread)
    obtain ⟨schema, config, hschema, hconfig, hstate⟩ := ofBytes?_stateOf hbuilt
    exact ⟨input, schema, config, hlast, hschema, hconfig, hstate⟩
  · rw [readSubscription_eq, readSubscription_eq,
      (effect_call c (after failing calls)).states_of_error herror]
  · refine updateSubscription_of_none (Option.eq_none_iff_forall_ne_some.2 fun state hstate => ?_)
    exact hdead ((htracks ⟨contextId, id⟩).live.1 ⟨state, hstate⟩)

end Demo

end ProviderLink
