/-
A provider in the same process as its runner, next to the same provider
behind a client. The runner keeps a status and the server a lifecycle;
the two agree after every operation (`Mirrors`), so whatever the runner
lets through the server lets through as well, and the refusals of the
server are never heard.

The step goes by what an operation asks of the provider: a call of one
that is ready (`askNoting_mirrors`), or `initSchema` and, if the
configuration fits the schema, `init` (`initOnce_mirrors`). All that is
asked is in the transcript of the provider, which only grows, so the
answers of a run fit into their lines if those at its end do.
-/
import ProviderLink.Proofs.Rpc.LocalClient
import ProviderLink.Proofs.Runner.Operation

namespace ProviderLink

open Rpc

/-- The lifecycle of a server whose provider has this status with its runner. -/
def Status.lifecycle : Status → Lifecycle
  | registered => .uninitialized
  | ready config => .ready config
  | failed reason => .failed reason

/-- What an operation asks first of a provider with this status, if anything. -/
def Operation.firstCall? : Operation → Status → Option Call
  | .init _, .registered => some .initSchema
  | .evaluateAction contextId action input, .ready _ =>
    some (.actionEvaluate contextId action input)
  | .mapPayloadToTriggerKey payload, .ready _ => some (.mapPayloadToTriggerKey payload)
  | .createSubscription contextId input, .ready _ => some (.createSubscription contextId input)
  | .readSubscription contextId id, .ready _ => some (.readSubscription contextId id)
  | .updateSubscription contextId id input, .ready _ =>
    some (.updateSubscription contextId id input)
  | .deleteSubscription contextId id, .ready _ => some (.deleteSubscription contextId id)
  | .introspect c _, .ready _ => some c
  | _, _ => none

namespace Managed

variable {π : Type}

/-- An entry with a client, and one with the provider that the client stands for. -/
structure Mirrors (m : Managed (Client (LocalLink π))) (d : Managed π) : Prop where
  status : m.status = d.status
  lastStates : m.lastStates = d.lastStates
  linked : Linked m.provider ⟨d.provider, d.status.lifecycle⟩

/-- Entries that mirror each other, put together. -/
theorem Mirrors.mk' {client : Client (LocalLink π)} {p : π} {status : Status}
    {lastStates : Dict String (Dict String Bytes)}
    (h : Linked client ⟨p, status.lifecycle⟩) :
    Mirrors ⟨client, status, lastStates⟩ ⟨p, status, lastStates⟩ := ⟨rfl, rfl, h⟩

/-- Entries that mirror each other, taken apart. -/
theorem Mirrors.eq {m : Managed (Client (LocalLink π))} {d : Managed π} (h : Mirrors m d) :
    ∃ client p status lastStates, m = ⟨client, status, lastStates⟩
      ∧ d = ⟨p, status, lastStates⟩ ∧ Linked client ⟨p, status.lifecycle⟩ := by
  obtain ⟨client, status, lastStates⟩ := m
  obtain ⟨hstatus, hlastStates, hlinked⟩ := h
  dsimp only at hstatus hlastStates hlinked
  subst hstatus hlastStates
  exact ⟨client, d.provider, d.status, d.lastStates, rfl, rfl, hlinked⟩

/-- Taking note of an outcome is the same on both sides. -/
theorem Mirrors.note {m : Managed (Client (LocalLink π))} {d : Managed π} (h : Mirrors m d)
    (contextId id : String) (outcome : Outcome (Option Bytes)) :
    Mirrors (m.note contextId id outcome) (d.note contextId id outcome) := by
  obtain ⟨client, p, status, lastStates, rfl, rfl, hlinked⟩ := h.eq
  cases outcome with
  | ok state =>
      cases state with
      | some state => exact ⟨rfl, rfl, hlinked⟩
      | none => exact ⟨rfl, rfl, hlinked⟩
  | error e =>
      cases e with
      | unknownSubscription => exact ⟨rfl, rfl, hlinked⟩
      | _ => exact ⟨rfl, rfl, hlinked⟩

variable [Provider π]

/-- Asking a provider that is ready is the same on both sides. -/
theorem askNoting_mirrors (name : String) {c : Call} (hinit : c.kind ≠ .init)
    {note : Outcome c.Reply → Managed (Client (LocalLink π)) → Managed (Client (LocalLink π))}
    {note' : Outcome c.Reply → Managed π → Managed π}
    (hnote : ∀ reply m d, Mirrors m d → Mirrors (note reply m) (note' reply d))
    {m : Managed (Client (LocalLink π))} {d : Managed π} (h : Mirrors m d)
    (hfits : ∀ config, d.status = .ready config → Answered.Fits ⟨c, (d.call c).1⟩) :
    (m.askNoting name c note).1 = (d.askNoting name c note').1
      ∧ Mirrors (m.askNoting name c note).2 (d.askNoting name c note').2 := by
  obtain ⟨client, p, status, lastStates, rfl, rfl, hlinked⟩ := h.eq
  cases status with
  | registered => exact ⟨rfl, h⟩
  | failed reason => exact ⟨rfl, h⟩
  | ready config =>
      obtain ⟨hanswer, hafter⟩ := call_permitted hlinked (Call.ordered_of_ne_init hinit)
        (Gated.refusal_ready hinit config) (hfits config rfl)
      rw [Gated.after_of_ne_init hinit] at hafter
      simp only [askNoting, call_eq, hanswer]
      exact ⟨trivial, hnote _ _ _ (.mk' hafter)⟩

/-- Initializing a provider is the same on both sides. -/
theorem initOnce_mirrors (name : String) {runner : RunnerData}
    (hordered : Dict.Sorted runner.userConfig)
    {m : Managed (Client (LocalLink π))} {d : Managed π} (h : Mirrors m d)
    (hfits : d.status = .registered → Answered.Fits ⟨.initSchema, (d.call .initSchema).1⟩) :
    (m.initOnce name runner).1 = (d.initOnce name runner).1
      ∧ Mirrors (m.initOnce name runner).2 (d.initOnce name runner).2 := by
  obtain ⟨client, p, status, lastStates, rfl, rfl, hlinked⟩ := h.eq
  cases status with
  | ready config => exact ⟨rfl, h⟩
  | failed reason => exact ⟨rfl, h⟩
  | registered =>
      obtain ⟨hschema, hasked⟩ := call_permitted (c := .initSchema) hlinked trivial rfl
        (hfits rfl)
      obtain ⟨hanswer, hafter⟩ := call_permitted (c := .init runner) hasked hordered rfl
        (Answered.fits_init ..)
      simp only [initOnce, Roster.initManaged, call_eq, hschema, hanswer]
      -- no schema, or one that the configuration does not fit: `init` is not called
      split
      · exact ⟨rfl, .mk' hasked⟩
      · split
        · next config hreply =>
          rw [hreply] at hafter
          exact ⟨rfl, .mk' hafter⟩
        · next e hreply =>
          rw [hreply] at hafter
          exact ⟨rfl, .mk' hafter⟩

/-- An operation is the same on both sides, if the answer to what it asks first fits. -/
theorem perform_mirrors_of_fits (name : String) {o : Operation} (hordered : o.Ordered)
    {m : Managed (Client (LocalLink π))} {d : Managed π} (h : Mirrors m d)
    (hfits : ∀ c, o.firstCall? d.status = some c → Answered.Fits ⟨c, (d.call c).1⟩) :
    (m.perform name o).1 = (d.perform name o).1
      ∧ Mirrors (m.perform name o).2 (d.perform name o).2 := by
  cases o with
  | init runner =>
      exact initOnce_mirrors name hordered h fun hstatus => hfits _ (by rw [hstatus]; rfl)
  | status => exact ⟨congrArg _ h.status, h⟩
  | lastState contextId id =>
      obtain ⟨client, p, status, lastStates, rfl, rfl, -⟩ := h.eq
      exact ⟨rfl, h⟩
  | evaluateAction | mapPayloadToTriggerKey | createSubscription =>
      simp only [perform]
      refine askNoting_mirrors name Call.Kind.noConfusion ?_ h fun config hstatus => hfits _ ?_
      · exact fun _ _ _ h => h
      · rw [hstatus]
        rfl
  | readSubscription | updateSubscription | deleteSubscription =>
      simp only [perform]
      refine askNoting_mirrors name Call.Kind.noConfusion ?_ h fun config hstatus => hfits _ ?_
      · intro reply m d h
        exact h.note ..
      · rw [hstatus]
        rfl
  | introspect c hinit =>
      simp only [perform]
      refine askNoting_mirrors name hinit ?_ h fun config hstatus => hfits _ ?_
      · exact fun _ _ _ h => h
      · rw [hstatus]
        rfl

/-- What an operation asks first is logged. -/
theorem mem_log_perform (name : String) {o : Operation} {d : Managed (Transcript π)} {c : Call}
    (h : o.firstCall? d.status = some c) :
    ⟨c, (d.call c).1⟩ ∈ (d.perform name o).2.provider.log := by
  -- an answer of a provider that is ready stands at the end of its log
  have hask : ∀ {c : Call}
      {note : Outcome c.Reply → Managed (Transcript π) → Managed (Transcript π)}
      {config : ProviderConfig}, (∀ reply m, (note reply m).provider = m.provider) →
      d.status = .ready config → ⟨c, (d.call c).1⟩ ∈ (d.askNoting name c note).2.provider.log := by
    intro c note config hnote hstatus
    rw [log_askNoting name hnote hstatus]
    exact List.mem_append_right _ (List.mem_singleton_self _)
  cases hstatus : d.status with
  | registered =>
      rw [hstatus] at h
      cases o with
      | init runner =>
          cases h
          have hlog := (log_prefix_initManaged name runner d).subset
          rw [perform, initOnce, hstatus]
          exact hlog (List.mem_append_right _ (List.mem_singleton_self _))
      | _ => cases h
  | failed reason =>
      rw [hstatus] at h
      cases o <;> cases h
  | ready config =>
      rw [hstatus] at h
      cases o with
      | init | status | lastState => cases h
      | evaluateAction | mapPayloadToTriggerKey | createSubscription | introspect =>
          cases h
          exact hask (fun _ _ => rfl) hstatus
      | readSubscription | updateSubscription | deleteSubscription =>
          cases h
          exact hask (fun _ m => provider_note m _ _ _) hstatus

/-- So it is if all that the provider answers fits. -/
theorem perform_mirrors (name : String) {o : Operation} (hordered : o.Ordered)
    {m : Managed (Client (LocalLink (Transcript π)))} {d : Managed (Transcript π)}
    (h : Mirrors m d) (hfits : ∀ a ∈ (d.perform name o).2.provider.log, a.Fits) :
    (m.perform name o).1 = (d.perform name o).1
      ∧ Mirrors (m.perform name o).2 (d.perform name o).2 :=
  perform_mirrors_of_fits name hordered h fun _ hc => hfits _ (mem_log_perform name hc)

/-- So is a run of operations. -/
theorem run_mirrors (name : String) (ops : List Operation) :
    ∀ {m : Managed (Client (LocalLink (Transcript π)))} {d : Managed (Transcript π)},
      Mirrors m d → (∀ o ∈ ops, o.Ordered) →
        (∀ a ∈ (d.run name ops).2.provider.log, a.Fits) →
          (m.run name ops).1 = (d.run name ops).1
            ∧ Mirrors (m.run name ops).2 (d.run name ops).2 := by
  induction ops with
  | nil => exact fun h _ _ => ⟨rfl, h⟩
  | cons o ops ih =>
      intro m d h hordered hfits
      rw [run_cons] at hfits
      have hlog := (log_prefix_run name ops (d.perform name o).2).subset
      obtain ⟨houtput, hafter⟩ := perform_mirrors name (hordered o (List.mem_cons_self ..)) h
        fun a ha => hfits a (hlog ha)
      obtain ⟨houtputs, hend⟩ := ih hafter
        (fun o ho => hordered o (List.mem_cons_of_mem _ ho)) hfits
      rw [run_cons, run_cons, houtput, houtputs]
      exact ⟨rfl, hend⟩

end Managed

-- ============================================================= rosters

namespace Roster

variable {π : Type}

/-- What is registered has not been called yet. -/
theorem get?_register {name : String} {p : π} {r r' : Roster π}
    (h : r.register name p = .ok r') : Dict.get? name r' = some ⟨p, .registered, []⟩ := by
  rw [(eq_insert_of_register h).2]
  exact Dict.get?_insert_self ..

/-- A name under which one thing is registered is good for another, where it is free. -/
theorem register_of_register {ρ : Type} {name : String} {p : π} {r r' : Roster π}
    (h : r.register name p = .ok r') (q : ρ) {s : Roster ρ} (hfree : Dict.has name s = false) :
    ∃ s', s.register name q = .ok s' := by
  unfold register at h ⊢
  split at h
  · cases h
  · next hblank =>
    rw [if_neg hblank, hfree]
    exact ⟨_, rfl⟩

variable [Provider π]

/-- A runner cannot tell a provider that is registered with it from a client of it that is. The
same operations on the name give the same back, leave the same status and the same last states,
and ask the provider the same, with the same answers. -/
theorem run_remote (name : String) (p : π) {r r' : Roster (Transcript π)}
    (hdirect : r.register name ⟨p, []⟩ = .ok r')
    {s : Roster (Client (LocalLink (Transcript π)))} (hfree : Dict.has name s = false)
    (ops : List Operation) (hordered : ∀ o ∈ ops, o.Ordered)
    (hfits : ∀ d, Dict.get? name (r'.run name ops).2 = some d →
      ∀ a ∈ d.provider.log, a.Fits) :
    ∃ client s', Client.connect (LocalLink.new ⟨p, []⟩) = (.ok (), client)
      ∧ s.register name client = .ok s'
      ∧ (s'.run name ops).1 = (r'.run name ops).1
      ∧ ∃ m d, Dict.get? name (s'.run name ops).2 = some m
        ∧ Dict.get? name (r'.run name ops).2 = some d
        ∧ m.status = d.status
        ∧ m.lastStates = d.lastStates
        ∧ m.provider.transport.server.provider = d.provider := by
  obtain ⟨client, hconnect, hlinked⟩ := connect_local (Transcript.mk p [])
  obtain ⟨s', hremote⟩ := register_of_register hdirect client hfree
  have hd := run_at ops (get?_register hdirect)
  have hm := run_at ops (get?_register hremote)
  obtain ⟨houtputs, hend⟩ := Managed.run_mirrors name ops (.mk' hlinked) hordered
    (hfits _ hd.entry)
  refine ⟨client, s', hconnect, hremote, ?_, _, _, hm.entry, hd.entry, hend.status,
    hend.lastStates, ?_⟩
  · rw [hm.result, hd.result, houtputs]
  · rw [hend.linked.server]

/-- Operations on a demonstration provider, one of them before its time. -/
def demoOperations : List Operation :=
  [.evaluateAction "acme" "double" (Bytes.ofList []), .init ⟨Demo.runner.global, []⟩,
    .introspect (.actionOutputType "double") Call.Kind.noConfusion,
    .deleteSubscription "acme" "sub-1", .status]

/-- What they give back. -/
def demoOutputs : List Performed :=
  [⟨.evaluateAction "acme" "double" (Bytes.ofList []), .error (.notInitialized "demo")⟩,
    ⟨.init ⟨Demo.runner.global, []⟩, .ok ⟨true⟩⟩,
    ⟨.introspect (.actionOutputType "double") Call.Kind.noConfusion,
      .ok (.object [("doubled", .primitive .number)])⟩,
    ⟨.deleteSubscription "acme" "sub-1",
      .error (.provider "demo" (.unknownSubscription "acme" "sub-1"))⟩,
    ⟨.status, .ok (.ready ⟨true⟩)⟩]

/-- What the provider answers meanwhile. -/
def demoLog : List Answered :=
  [⟨.initSchema, .ok Demo.initSchema⟩, ⟨.init ⟨Demo.runner.global, []⟩, .ok ⟨true⟩⟩,
    ⟨.actionOutputType "double", .ok (.object [("doubled", .primitive .number)])⟩,
    ⟨.deleteSubscription "acme" "sub-1", .error (.unknownSubscription "acme" "sub-1")⟩]

/-- A roster of the demonstration provider alone. -/
def demoRoster (log : List Answered) (status : Status)
    (lastStates : Dict String (Dict String Bytes)) : Roster (Transcript Demo) :=
  [("demo", ⟨⟨Demo.new false, log⟩, status, lastStates⟩)]

theorem run_demoOperations :
    (demoRoster [] .registered []).run "demo" demoOperations
      = (demoOutputs, demoRoster demoLog (.ready ⟨true⟩) [("acme", [])]) := rfl

theorem ordered_demoOperations : ∀ o ∈ demoOperations, o.Ordered := by
  intro o ho
  simp only [demoOperations, List.mem_cons, List.not_mem_nil, or_false] at ho
  rcases ho with rfl | rfl | rfl | rfl | rfl
  · exact trivial
  · exact List.Pairwise.nil
  · exact trivial
  · exact trivial
  · exact trivial

theorem fits_demoLog : ∀ a ∈ demoLog, a.Fits := by
  intro a ha
  simp only [demoLog, List.mem_cons, List.not_mem_nil, or_false] at ha
  rcases ha with rfl | rfl | rfl | rfl
  · exact fits_demo_initSchema
  · exact Answered.fits_init ..
  · exact fits_demo_outputType
  · exact trivial

/-- The same operations on a client of the provider give the same back. -/
theorem run_remote_demo : ∃ client s',
    Client.connect (LocalLink.new (Transcript.mk (Demo.new false) [])) = (.ok (), client)
      ∧ register [] "demo" client = .ok s'
      ∧ (run "demo" demoOperations s').1 = demoOutputs := by
  have hdirect : register [] "demo" (Transcript.mk (Demo.new false) [])
      = .ok (demoRoster [] .registered []) := rfl
  obtain ⟨client, s', hconnect, hremote, houtputs, -⟩ := run_remote "demo" (Demo.new false)
    hdirect (s := []) rfl demoOperations ordered_demoOperations (by
      rw [run_demoOperations]
      intro d hd
      cases hd
      exact fits_demoLog)
  exact ⟨client, s', hconnect, hremote, houtputs.trans (congrArg Prod.fst run_demoOperations)⟩

end Roster

end ProviderLink
