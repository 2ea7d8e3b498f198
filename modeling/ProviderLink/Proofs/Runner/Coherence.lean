/-
What a runner remembers of a demonstration provider's subscriptions, and
what the provider keeps. The runner's copy of a state is written by reads
and updates and dropped by deletions and by answers that know of no such
subscription; the provider's record is changed by updates and deletions.
As long as all of those go through the runner, whatever the runner
remembers is what the provider would return (`Coherent`).

A call may leave the copy of its own key behind, and only that; the note
that the runner takes of the answer puts it right (`coherent_note`). A
creation is noted nowhere, but its id is new, and what is remembered is
of live keys (`Sound`). Once a key is deleted its id is spent, and what is
not live cannot be remembered (`lastState_eq_none`).

All this is about an entry with the provider itself. What simulates it
remembers the same and reads the same (`Simulates.read_eq`), and that
covers the provider among others in a roster, and a client of it
(`Demo.Behind.simulates`).
-/
import ProviderLink.Proofs.Codec
import ProviderLink.Proofs.Provider.Demo
import ProviderLink.Proofs.Runner.LastState
import ProviderLink.Proofs.Runner.Simulation

namespace ProviderLink

open Rpc

/-- An operation that changes a subscription without the runner's taking note. -/
def Operation.Bypasses : Operation → Prop
  | .introspect c _ => c.kind = .updateSubscription ∨ c.kind = .deleteSubscription
  | _ => False

namespace Managed

-- ============================================================= coherence

/-- The provider is ready and would return this state. -/
def Keeps (m : Managed Demo) (k : SubscriptionKey) (state : Bytes) : Prop :=
  (∃ config, m.status = .ready config) ∧
    ∃ record, m.provider.subscriptions.read k.contextId k.subscriptionId = .ok record ∧
      record.state = state

/-- What is remembered of a key is kept. -/
def CoherentAt (m : Managed Demo) (k : SubscriptionKey) : Prop :=
  ∀ state, m.lastState k.contextId k.subscriptionId = some state → m.Keeps k state

/-- What is remembered is kept, in a store that is sound. -/
structure Coherent (m : Managed Demo) : Prop where
  sound : Store.Shared.Sound ⟨m.provider.subscriptions, []⟩
  at_key : ∀ k, m.CoherentAt k

theorem coherent_new (failing : Bool) : Coherent ⟨.new failing, .registered, []⟩ :=
  ⟨Store.Shared.sound_start, fun _ _ h => nomatch h⟩

theorem sound_call {d : Demo} (h : Store.Shared.Sound ⟨d.subscriptions, []⟩) (c : Call) :
    Store.Shared.Sound ⟨(Provider.call c d).2.subscriptions, []⟩ := by
  obtain ⟨events, hrun⟩ := d.exists_run_call c
  exact h.run hrun

/-- Taking note makes up for a call that concerned its own key alone. -/
theorem coherent_note {m : Managed Demo} {contextId id : String}
    {outcome : Outcome (Option Bytes)}
    (hsound : Store.Shared.Sound ⟨m.provider.subscriptions, []⟩)
    (hothers : ∀ k : SubscriptionKey, k ≠ ⟨contextId, id⟩ → m.CoherentAt k)
    (hstate : ∀ state, outcome = .ok (some state) → m.Keeps ⟨contextId, id⟩ state)
    (hfailed : ∀ e, outcome = .error e → m.CoherentAt ⟨contextId, id⟩) :
    Coherent (m.note contextId id outcome) := by
  have hremember : ∀ state, m.Keeps ⟨contextId, id⟩ state →
      Coherent (m.remember contextId id state) := by
    intro state hkeeps
    refine ⟨hsound, fun k last hlast => ?_⟩
    by_cases hk : k = ⟨contextId, id⟩
    · subst hk
      rw [lastState_remember_self] at hlast
      cases hlast
      exact hkeeps
    · rw [lastState_remember_of_ne hk] at hlast
      exact hothers k hk last hlast
  have hforget : Coherent (m.forget contextId id) := by
    refine ⟨hsound, fun k last hlast => ?_⟩
    by_cases hk : k = ⟨contextId, id⟩
    · subst hk
      rw [lastState_forget_self] at hlast
      cases hlast
    · rw [lastState_forget_of_ne hk] at hlast
      exact hothers k hk last hlast
  unfold note
  split
  · exact hremember _ (hstate _ rfl)
  · exact hforget
  · exact hforget
  · next e _ =>
    refine ⟨hsound, fun k => ?_⟩
    by_cases hk : k = ⟨contextId, id⟩
    · subst hk
      exact hfailed e rfl
    · exact hothers k hk

/-- A call keeps an entry coherent if it keeps all that is remembered. -/
theorem Coherent.call {m : Managed Demo} (h : Coherent m) {c : Call}
    (hread : ∀ (k : SubscriptionKey) record,
      m.provider.subscriptions.read k.contextId k.subscriptionId = .ok record →
      (Provider.call c m.provider).2.subscriptions.read k.contextId k.subscriptionId
        = .ok record) : Coherent (m.call c).2 := by
  refine ⟨sound_call h.sound c, fun k state hstate => ?_⟩
  obtain ⟨hready, record, hrecord, heq⟩ := h.at_key k state hstate
  exact ⟨hready, record, hread k record hrecord, heq⟩

/-- A creation concerns no key that is live. -/
theorem read_create {s : Store} (h : Store.Shared.Sound ⟨s, []⟩) {contextId : String}
    {input : Bytes} {k : SubscriptionKey} {record : Subscription}
    (hrecord : s.read k.contextId k.subscriptionId = .ok record) :
    (s.create contextId fun id s => (Demo.stateOf id input, s)).2.read k.contextId
      k.subscriptionId = .ok record := by
  have hne : k ≠ ⟨contextId, s.reserve.1⟩ := by
    rintro rfl
    -- the id of a live key was handed out, and this one is new
    exact Store.not_handedOut_reserve s (h.closed _ (Store.mem_keys_of_read hrecord)).1
  exact (Store.read_settle_of_ne hne _ s.reserve.2).trans hrecord

/-- Every call but an update and a deletion keeps an entry coherent. -/
theorem Coherent.call_of_kind {m : Managed Demo} (h : Coherent m) {c : Call}
    (hupdate : c.kind ≠ .updateSubscription) (hdelete : c.kind ≠ .deleteSubscription) :
    Coherent (m.call c).2 := by
  refine h.call fun k record hrecord => ?_
  by_cases hcreate : c.kind = .createSubscription
  · cases c with
    | createSubscription contextId input => exact read_create h.sound hrecord
    | _ => cases hcreate
  · rw [Demo.call_of_kind hcreate hupdate hdelete]
    exact hrecord

-- =========================================================== operations

theorem coherent_askNoting {m : Managed Demo} (h : Coherent m) (name : String) {c : Call}
    {note : Outcome c.Reply → Managed Demo → Managed Demo}
    (hnote : ∀ config, m.status = .ready config → Coherent (note (m.call c).1 (m.call c).2)) :
    Coherent (m.askNoting name c note).2 := by
  unfold askNoting
  split
  · next config hready => exact hnote config hready
  · exact h
  · exact h

/-- Initializing keeps the provider's subscriptions, and of one that is not ready nothing is
remembered. -/
theorem Coherent.init {m : Managed Demo} (h : Coherent m) (name : String)
    (runner : RunnerData) : Coherent (m.initOnce name runner).2 := by
  unfold initOnce
  cases hstatus : m.status with
  | ready config => exact h
  | failed reason => exact h
  | registered =>
      have hsame : ∃ status, (Roster.initManaged name runner m).2 = { m with status } := by
        unfold Roster.initManaged
        dsimp only
        split
        · exact ⟨m.status, rfl⟩
        · split
          · exact ⟨_, rfl⟩
          · exact ⟨_, rfl⟩
      obtain ⟨status, hsame⟩ := hsame
      refine ⟨by rw [hsame]; exact h.sound, fun k state hstate => ?_⟩
      rw [hsame] at hstate
      obtain ⟨⟨config, hready⟩, -⟩ := h.at_key k state hstate
      rw [hstatus] at hready
      cases hready

/-- What an access does to one key leaves the others coherent. -/
theorem Coherent.access {m : Managed Demo} (h : Coherent m) (a : Store.Access)
    {key k : SubscriptionKey} (hk : k ≠ key) :
    CoherentAt { m with provider :=
      { m.provider with subscriptions := (m.provider.subscriptions.access a key).2 } } k := by
  intro state hstate
  obtain ⟨hready, record, hrecord, heq⟩ := h.at_key k state hstate
  exact ⟨hready, record, (Store.read_access_of_ne hk _).trans hrecord, heq⟩

theorem Coherent.read {m : Managed Demo} (h : Coherent m) (name contextId id : String) :
    Coherent (m.perform name (.readSubscription contextId id)).2 := by
  refine coherent_askNoting h name fun config hready => ?_
  refine coherent_note h.sound (fun k _ => h.at_key k) (fun state hstate => ?_)
    fun _ _ => h.at_key _
  obtain ⟨reply, hreply, hsome⟩ := map_eq_ok.1 hstate
  cases hsome
  obtain ⟨record, hrecord, heq⟩ := map_eq_ok.1 hreply
  exact ⟨⟨config, hready⟩, record, hrecord, heq.symm⟩

theorem Coherent.update {m : Managed Demo} (h : Coherent m) (name contextId id : String)
    (input : Bytes) : Coherent (m.perform name (.updateSubscription contextId id input)).2 := by
  refine coherent_askNoting h name fun config hready => ?_
  have hcall : m.call (.updateSubscription contextId id input)
      = ((Demo.updateSubscription contextId id input m.provider.subscriptions).1,
        { m with provider := { m.provider with subscriptions :=
          (Demo.updateSubscription contextId id input m.provider.subscriptions).2 } }) := rfl
  rw [hcall]
  rcases Demo.updateSubscription_cases contextId id input m.provider.subscriptions with
    ⟨e, hupdate⟩ | ⟨state, record, hrecord, -, hupdate⟩
  · rw [hupdate]
    refine coherent_note h.sound (fun k _ => h.at_key k) (fun state hstate => ?_)
      fun _ _ => h.at_key _
    cases hstate
  · have hsound := sound_call h.sound (.updateSubscription contextId id input)
    have hstore : (Provider.call (.updateSubscription contextId id input)
        m.provider).2.subscriptions
        = (Demo.updateSubscription contextId id input m.provider.subscriptions).2 := rfl
    rw [hstore, hupdate] at hsound
    rw [hupdate]
    refine coherent_note hsound (fun k hk => h.access (.update state) hk)
      (fun last hlast => ?_) fun e he => ?_
    · cases hlast
      refine ⟨⟨config, hready⟩, { record with state }, ?_, rfl⟩
      exact Store.read_access_update hrecord state
    · cases he

theorem call_delete (m : Managed Demo) (contextId id : String) :
    m.call (.deleteSubscription contextId id)
      = ((m.provider.subscriptions.access .delete ⟨contextId, id⟩).1.map fun _ => (),
        { m with provider := { m.provider with subscriptions :=
          (m.provider.subscriptions.access .delete ⟨contextId, id⟩).2 } }) := rfl

theorem Coherent.delete {m : Managed Demo} (h : Coherent m) (name contextId id : String) :
    Coherent (m.perform name (.deleteSubscription contextId id)).2 := by
  refine coherent_askNoting h name fun config hready => ?_
  have hsound := sound_call h.sound (.deleteSubscription contextId id)
  rw [call_delete]
  by_cases hlive : ⟨contextId, id⟩ ∈ m.provider.subscriptions.keys
  · refine coherent_note hsound (fun k hk => h.access .delete hk) (fun state hstate => ?_)
      fun e he => ?_
    · obtain ⟨reply, hreply, hsome⟩ := map_eq_ok.1 hstate
      cases hsome
    · obtain ⟨record, hdeleted⟩ := Store.exists_deleted hlive
      rw [hdeleted] at he
      cases he
  · rw [Store.access_of_not_mem hlive]
    exact coherent_note h.sound (fun k _ => h.at_key k) nofun fun _ _ => h.at_key _

/-- Every operation that does not bypass the runner keeps an entry coherent. -/
theorem Coherent.perform {m : Managed Demo} (h : Coherent m) (name : String) {o : Operation}
    (ho : ¬o.Bypasses) : Coherent (m.perform name o).2 := by
  have hcall : ∀ c : Call, c.kind ≠ .updateSubscription → c.kind ≠ .deleteSubscription →
      Coherent (m.askNoting name c fun _ m => m).2 := fun c hupdate hdelete =>
    coherent_askNoting h name fun _ _ => h.call_of_kind hupdate hdelete
  cases o with
  | init runner => exact h.init name runner
  | status | lastState => exact h
  | evaluateAction | mapPayloadToTriggerKey | createSubscription =>
      exact hcall _ Call.Kind.noConfusion Call.Kind.noConfusion
  | readSubscription contextId id => exact h.read name contextId id
  | updateSubscription contextId id input => exact h.update name contextId id input
  | deleteSubscription contextId id => exact h.delete name contextId id
  | introspect c hinit =>
      exact hcall c (fun hupdate => ho (Or.inl hupdate)) fun hdelete => ho (Or.inr hdelete)

theorem Coherent.run (name : String) (ops : List Operation) : ∀ {m : Managed Demo},
    Coherent m → (∀ o ∈ ops, ¬o.Bypasses) → Coherent (m.run name ops).2 := by
  induction ops with
  | nil => exact fun h _ => h
  | cons o ops ih =>
      intro m h hops
      obtain ⟨ho, hops⟩ := List.forall_mem_cons.1 hops
      exact ih (h.perform name ho) hops

/-- What is remembered is what a read gives. -/
theorem Coherent.read_eq {m : Managed Demo} (h : Coherent m) (name : String)
    {contextId id : String} {state : Bytes} (hstate : m.lastState contextId id = some state) :
    (m.perform name (.readSubscription contextId id)).1 = .ok state := by
  obtain ⟨⟨config, hready⟩, record, hrecord, rfl⟩ := h.at_key ⟨contextId, id⟩ state hstate
  have hreply : (m.call (.readSubscription contextId id)).1 = .ok record.state :=
    congrArg (Except.map Subscription.state) hrecord
  rw [Managed.perform, askNoting, hready]
  dsimp only
  rw [hreply]
  rfl

-- =============================================================== spent

/-- Nothing is remembered under a spent id. -/
theorem Coherent.lastState_eq_none {m : Managed Demo} (h : Coherent m) {k : SubscriptionKey}
    (hspent : Store.Shared.Spent ⟨m.provider.subscriptions, []⟩ k.subscriptionId) :
    m.lastState k.contextId k.subscriptionId = none := by
  cases hstate : m.lastState k.contextId k.subscriptionId with
  | none => rfl
  | some state =>
      obtain ⟨-, record, hrecord, -⟩ := h.at_key k state hstate
      exact absurd rfl (hspent.2 k (Store.mem_keys_of_read hrecord))

/-- A deletion that succeeds spends the id. -/
theorem Coherent.spent_of_delete {m : Managed Demo} (h : Coherent m) {name contextId id : String}
    (hdelete : (m.perform name (.deleteSubscription contextId id)).1 = .ok ()) :
    Store.Shared.Spent
      ⟨(m.perform name (.deleteSubscription contextId id)).2.provider.subscriptions, []⟩ id := by
  have hask : m.perform name (.deleteSubscription contextId id)
      = m.askNoting name (.deleteSubscription contextId id) fun reply m =>
          m.note contextId id (reply.map fun _ => none) := rfl
  rw [hask] at hdelete ⊢
  unfold askNoting at hdelete ⊢
  cases hstatus : m.status with
  | registered =>
      rw [hstatus] at hdelete
      cases hdelete
  | failed reason =>
      rw [hstatus] at hdelete
      cases hdelete
  | ready config =>
      rw [hstatus] at hdelete
      dsimp only at hdelete ⊢
      rw [provider_note]
      rw [call_delete] at hdelete ⊢
      cases hresult : (m.provider.subscriptions.access .delete ⟨contextId, id⟩).1 with
      | error e =>
          rw [hresult] at hdelete
          cases hdelete
      | ok record =>
          have hstep := Store.Shared.Step.access ⟨m.provider.subscriptions, []⟩ .delete
            ⟨contextId, id⟩
          rw [hresult] at hstep
          exact h.sound.spent_of_deleted hstep

/-- After a deletion that succeeds, nothing is remembered of the key for good. -/
theorem Coherent.forgotten {m : Managed Demo} (h : Coherent m) {name contextId id : String}
    (hdelete : (m.perform name (.deleteSubscription contextId id)).1 = .ok ())
    {ops : List Operation} (hops : ∀ o ∈ ops, ¬o.Bypasses) :
    ((m.perform name (.deleteSubscription contextId id)).2.run name ops).2.lastState contextId id
      = none := by
  have hspent := provider_run
    (P := fun d : Demo => Store.Shared.Spent ⟨d.subscriptions, []⟩ id)
    (fun c d hd => by
      obtain ⟨events, hrun⟩ := d.exists_run_call c
      exact hd.run hrun)
    name ops (h.spent_of_delete hdelete)
  have hafter := (h.delete name contextId id).run name ops hops
  exact hafter.lastState_eq_none (k := ⟨contextId, id⟩) hspent

-- =========================================================== simulated

section Simulated

variable {π : Type} [Provider π] {name : String} {R : Managed π → Managed Demo → Prop}
  {m : Managed π} {d : Managed Demo} {contextId id : String}

/-- So it is for what simulates a coherent entry: what is remembered is what a read gives. -/
theorem Simulates.read_eq (hR : Simulates name R) (h : R m d) (hd : d.Coherent) {state : Bytes}
    (hstate : m.lastState contextId id = some state) :
    (m.perform name (.readSubscription contextId id)).1 = .ok state := by
  rw [lastState_of_simulates hR h] at hstate
  rw [hR.output h (.readSubscription contextId id) trivial]
  exact hd.read_eq name hstate

/-- And a deletion that succeeds is for good. -/
theorem Simulates.forgotten (hR : Simulates name R) (h : R m d) (hd : d.Coherent)
    (hdelete : (m.perform name (.deleteSubscription contextId id)).1 = .ok ())
    {ops : List Operation} (hops : ∀ o ∈ ops, o.Ordered ∧ ¬o.Bypasses) :
    ((m.perform name (.deleteSubscription contextId id)).2.run name ops).2.lastState contextId id
      = none := by
  rw [hR.output h (.deleteSubscription contextId id) trivial] at hdelete
  have hafter := hR.after h (.deleteSubscription contextId id) trivial
  have hend := run_of_simulates hR ops hafter fun o ho => (hops o ho).1
  rw [lastState_of_simulates hR hend]
  exact hd.forgotten hdelete fun o ho => (hops o ho).2

end Simulated

end Managed

-- ============================================================= rosters

/-- The demonstration provider that nobody called yet, or a client of it. -/
inductive Demo.Behind (failing : Bool) : Demo ⊕ Client (LocalLink Demo) → Prop
  | direct : Behind failing (.inl (.new failing))
  | remote {accept : UInt32 → Except String Unit} {client : Client (LocalLink Demo)}
    (h : Client.connectIf accept (LocalLink.new (.new failing)) = (.ok (), client)) :
    Behind failing (.inr client)

/-- Either of them, among other providers, simulates the provider by itself. -/
theorem Demo.Behind.simulates {failing : Bool} {p : Demo ⊕ Client (LocalLink Demo)}
    (h : Demo.Behind failing p) (ρ : Type) [Provider ρ] (name : String) :
    ∃ R : Managed (Transcript ((Demo ⊕ Client (LocalLink Demo)) ⊕ ρ)) → Managed Demo → Prop,
      Managed.Simulates name R ∧ R (.fresh (.inl p)) ⟨.new failing, .registered, []⟩ := by
  cases h with
  | direct =>
      exact ⟨_, Managed.simulates_map Managed.forwards_transcript
        (Managed.forwards_inl.comp Managed.forwards_inl) name, rfl⟩
  | @remote accept client h =>
      obtain ⟨linked, hconnect, hlinked⟩ := connect_local (Demo.new failing)
      have hclient : linked = client := by
        have hsame := Client.connectIf_client accept (fun _ => .ok ())
          (LocalLink.new (Demo.new failing))
        rw [h] at hsame
        exact (hsame.trans (congrArg Prod.snd hconnect)).symm
      subst hclient
      have hwrapped := Managed.simulates_map (Managed.forwards_transcript
        (π := (Demo ⊕ Client (LocalLink Demo)) ⊕ ρ))
        (Managed.forwards_inl.comp Managed.forwards_inr) name
      exact ⟨_, hwrapped.comp (Managed.simulates_mirrors Demo.fits_call name),
        ⟨linked, .registered, []⟩, rfl, .mk' hlinked⟩

namespace Roster

variable {ρ : Type} [Provider ρ] {failing : Bool} {p : Demo ⊕ Client (LocalLink Demo)}

/-- What a runner remembers of a demonstration provider's subscriptions. In a roster where the
provider is registered, itself or through a client, and its subscriptions are changed through the
runner alone, a state that is remembered is the one that a read gives, and a deletion that
succeeds is remembered for good. -/
theorem run_coherent (hp : Demo.Behind failing p) {name : String}
    {before later : List (Command ((Demo ⊕ Client (LocalLink Demo)) ⊕ ρ))}
    (hregistered : ((after before).execute (.register name (.inl p))).1 = .ok ())
    (hlater : ∀ o ∈ later.flatMap (Command.asks name), o.Ordered ∧ ¬o.Bypasses)
    (contextId id : String) :
    let now := after (before ++ .register name (.inl p) :: later)
    (∀ state, now.lastState name contextId id = .ok (some state) →
        (now.readSubscription name contextId id).1 = .ok state)
      ∧ ∀ past future, later = past ++ .perform name (.deleteSubscription contextId id) :: future →
          ((after (before ++ .register name (.inl p) :: past)).deleteSubscription
            name contextId id).1 = .ok () →
          now.lastState name contextId id = .ok none := by
  intro now
  obtain ⟨R, hR, hfresh⟩ := hp.simulates ρ name
  have hentry := get?_after_register hregistered
  -- the entry, and the provider by itself that has been through the same
  have hran : ∀ ops : List Operation, (∀ o ∈ ops, o.Ordered ∧ ¬o.Bypasses) →
      R ((Managed.fresh (.inl p)).run name ops).2
          (Managed.run name ops ⟨.new failing, .registered, []⟩).2
        ∧ (Managed.run name ops ⟨.new failing, .registered, []⟩).2.Coherent := fun ops hops =>
    ⟨Managed.run_of_simulates hR ops hfresh fun o ho => (hops o ho).1,
      (Managed.coherent_new failing).run name ops fun o ho => (hops o ho).2⟩
  have hlast := lastState_at (hentry later) contextId id
  refine ⟨fun state hstate => ?_, fun past future hsplit hdeleted => ?_⟩
  · obtain ⟨hrelated, hcoherent⟩ := hran _ hlater
    have hremembered := Except.ok.inj (hlast.symm.trans hstate)
    exact (readSubscription_at (hentry later) contextId id).trans
      (hR.read_eq hrelated hcoherent hremembered)
  · have hasks : later.flatMap (Command.asks name) = past.flatMap (Command.asks name)
        ++ .deleteSubscription contextId id :: future.flatMap (Command.asks name) := by
      rw [hsplit, List.flatMap_append, List.flatMap_cons, Command.asks, if_pos rfl]
      rfl
    rw [hasks] at hlater hlast
    obtain ⟨hpast, hfuture⟩ := List.forall_mem_append.1 hlater
    obtain ⟨hrelated, hcoherent⟩ := hran _ hpast
    have hdelete := (deleteSubscription_at (hentry past) contextId id).symm.trans hdeleted
    have hforgotten := hR.forgotten hrelated hcoherent hdelete (List.forall_mem_cons.1 hfuture).2
    rw [Managed.run_append, Managed.run_cons] at hlast
    exact hlast.trans (congrArg Except.ok hforgotten)

/-- A subscription to the events at a path. -/
def demoConfiguration : Json := .object [("webhook", .object [("path", .string "/events")])]

/-- What the provider keeps of it. -/
def demoState : Bytes :=
  (Json.object [("config", demoConfiguration),
    ("subscription_id", .string "sub-1")]).text.toUTF8

theorem stateOf_demoConfiguration :
    Demo.stateOf "sub-1" demoConfiguration.text.toUTF8 = .ok demoState := by
  have hlegible : demoConfiguration.Legible := by
    simp [demoConfiguration, Json.Legible, Json.LegibleMembers]
  have hparse := Codec.parse_text hlegible (by decide) (by decide)
  exact bind_eq_ok.2 ⟨_, Demo.triggerConfigurationSchema_eq,
    bind_eq_ok.2 ⟨_, Codec.decodeInput_steps.2 ⟨_, hparse, rfl, rfl⟩, rfl⟩⟩

/-- A subscription is created and read. -/
def demoSubscribing (input : Bytes) : List (Command ((Demo ⊕ Client (LocalLink Demo)) ⊕ Demo)) :=
  [.perform "demo" (.init ⟨Demo.runner.global, []⟩),
    .perform "demo" (.createSubscription "acme" input),
    .perform "demo" (.readSubscription "acme" "sub-1")]

theorem asks_demoSubscribing (input : Bytes) :
    (demoSubscribing input).flatMap (Command.asks "demo")
      = [.init ⟨Demo.runner.global, []⟩, .createSubscription "acme" input,
        .readSubscription "acme" "sub-1"] := rfl

/-- The provider by itself, and what is remembered of it. -/
def demoSubscribed (state : Bytes) : Managed Demo :=
  ⟨⟨⟨1, [(⟨"acme", "sub-1"⟩, ⟨"acme", "sub-1", state⟩)]⟩, false⟩, .ready ⟨true⟩,
    [("acme", [("sub-1", state)])]⟩

theorem run_demoSubscribing {input state : Bytes} (h : Demo.stateOf "sub-1" input = .ok state) :
    (Managed.run "demo" ((demoSubscribing input).flatMap (Command.asks "demo"))
      ⟨Demo.new false, .registered, []⟩).2 = demoSubscribed state := by
  have hinit : Managed.perform "demo" (.init ⟨Demo.runner.global, []⟩)
      ⟨Demo.new false, .registered, []⟩
      = (.ok ⟨true⟩, ⟨Demo.new false, .ready ⟨true⟩, []⟩) := rfl
  have hreserve : (Demo.new false).subscriptions.reserve = ("sub-1", ⟨1, []⟩) := rfl
  have hcreate : Managed.perform "demo" (.createSubscription "acme" input)
        ⟨Demo.new false, .ready ⟨true⟩, []⟩
      = (.ok state, ⟨(demoSubscribed state).provider, .ready ⟨true⟩, []⟩) := by
    rw [Managed.perform, Managed.askNoting, Managed.call_eq,
      Demo.createSubscription_of_stateOf hreserve h]
    rfl
  have hread : Managed.perform "demo" (.readSubscription "acme" "sub-1")
      ⟨(demoSubscribed state).provider, .ready ⟨true⟩, []⟩
      = (.ok state, demoSubscribed state) := rfl
  rw [asks_demoSubscribing, Managed.run_cons, hinit, Managed.run_cons, hcreate,
    Managed.run_cons, hread]
  rfl

theorem lastState_demoSubscribed (state : Bytes) :
    (demoSubscribed state).lastState "acme" "sub-1" = some state := rfl

theorem delete_demoSubscribed (state : Bytes) :
    ((demoSubscribed state).perform "demo" (.deleteSubscription "acme" "sub-1")).1 = .ok () := rfl

/-- A client of the provider. -/
def demoClient : Client (LocalLink Demo) := ⟨⟨.new (Demo.new false), .established⟩, 2⟩

theorem behind_demoClient : Demo.Behind false (.inr demoClient) := by
  have hagreed : negotiate .current = .ok ⟨protocolVersion⟩ := rfl
  have hconnect : Client.connect (LocalLink.new (Demo.new false)) = (.ok (), demoClient) :=
    Client.connectIf_of_request (request_handshake hagreed (.new (Demo.new false)) 1)
  exact .remote hconnect

theorem run_coherent_demo :
    let delete := Command.perform "demo" (.deleteSubscription "acme" "sub-1")
    let read := Command.perform "demo" (.readSubscription "acme" "sub-1")
    let registered := Command.register "demo" (.inl (.inr demoClient))
    let subscribing := demoSubscribing demoConfiguration.text.toUTF8
    let before := after (registered :: subscribing)
    let now := after (registered :: (subscribing ++ [delete, read]))
    Demo.Behind false (.inr demoClient)
      ∧ before.lastState "demo" "acme" "sub-1" = .ok (some demoState)
      ∧ (before.readSubscription "demo" "acme" "sub-1").1 = .ok demoState
      ∧ (before.deleteSubscription "demo" "acme" "sub-1").1 = .ok ()
      ∧ now.lastState "demo" "acme" "sub-1" = .ok none := by
  have hbuilt := stateOf_demoConfiguration
  -- what they are texts of no longer matters
  generalize demoConfiguration.text.toUTF8 = input, demoState = state at hbuilt ⊢
  intro delete read registered subscribing before now
  have hregistered : ((after []).execute registered).1 = .ok () := rfl
  have hbefore : ∀ o ∈ subscribing.flatMap (Command.asks "demo"),
      o.Ordered ∧ ¬o.Bypasses := by
    rw [asks_demoSubscribing]
    simp only [List.forall_mem_cons, List.not_mem_nil, false_implies, implies_true, and_true]
    exact ⟨⟨List.Pairwise.nil, id⟩, ⟨trivial, id⟩, ⟨trivial, id⟩⟩
  have hnow : ∀ o ∈ (subscribing ++ [delete, read]).flatMap (Command.asks "demo"),
      o.Ordered ∧ ¬o.Bypasses := by
    rw [List.flatMap_append]
    refine List.forall_mem_append.2 ⟨hbefore, ?_⟩
    change ∀ o ∈ [Operation.deleteSubscription "acme" "sub-1", .readSubscription "acme" "sub-1"], _
    simp only [List.forall_mem_cons, List.not_mem_nil, false_implies, implies_true, and_true]
    exact ⟨⟨trivial, id⟩, ⟨trivial, id⟩⟩
  obtain ⟨R, hR, hfresh⟩ := behind_demoClient.simulates Demo "demo"
  have hrelated := Managed.run_of_simulates hR _ hfresh fun o ho => (hbefore o ho).1
  rw [run_demoSubscribing hbuilt] at hrelated
  have hentry : Dict.get? "demo" before = some _ := get?_after_register hregistered subscribing
  have hstate := lastState_at hentry "acme" "sub-1"
  rw [Managed.lastState_of_simulates hR hrelated, lastState_demoSubscribed] at hstate
  have hdeleted := deleteSubscription_at hentry "acme" "sub-1"
  rw [hR.output hrelated (.deleteSubscription "acme" "sub-1") trivial,
    delete_demoSubscribed] at hdeleted
  obtain ⟨hread, -⟩ := run_coherent behind_demoClient hregistered hbefore "acme" "sub-1"
  obtain ⟨-, hforgotten⟩ := run_coherent behind_demoClient hregistered hnow "acme" "sub-1"
  rw [List.nil_append] at hread hforgotten
  exact ⟨behind_demoClient, hstate, hread state hstate, hdeleted,
    hforgotten subscribing [read] rfl hdeleted⟩

end Roster

end ProviderLink
