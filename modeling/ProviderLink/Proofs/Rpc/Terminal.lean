/-
A server whose provider failed to initialize. Nothing leads out of that:
the gate lets no call through any more, so the server stays as it is, its
provider and all that this received included, whatever comes in over
whatever connections (`run_of_failed`).

What a request is told is another matter. All methods but `init` ask the
gate before they read their parameters, and are told that the provider
failed whatever they hand over. `init` reads its parameters first, as it
does at any other time, and if they cannot be read that is what it is
told (`callFor_failed`, `callFor_unreadable`).
-/
import ProviderLink.Proofs.Rpc.Connection

namespace ProviderLink.Rpc

open Json

/-- An `init` that does not hand over the data of a runner, and what is wrong with it. -/
def Request.Unreadable (r : Request) (fault : Fault) : Prop :=
  r.method = (Method.call .init).name ∧ readInit r.params = .error fault

/-- What is told of it. -/
def unreadableInit (fault : Fault) : Error :=
  ⟨Code.invalidParams, "invalid params for " ++ (Method.call .init).name ++ ": " ++ fault.message,
    none⟩

/-- A provider that failed to initialize has that failure in its life, and no other. -/
theorem Life.eq_failed {lifecycle : Lifecycle} {log : List Answered} (hlife : Life lifecycle log)
    {runner : RunnerData} {e : ProviderError} (h : ⟨.init runner, .error e⟩ ∈ log) :
    lifecycle = .failed e.message := by
  have hschemas : ∀ {before : List Answered}, (∀ a ∈ before, a.call = .initSchema) →
      ⟨.init runner, .error e⟩ ∉ before := fun hbefore hmem => nomatch hbefore _ hmem
  cases lifecycle with
  | uninitialized => exact absurd h (hschemas hlife)
  | ready config =>
      obtain ⟨before, runner', rest, rfl, hbefore, hrest⟩ := hlife
      rcases List.mem_append.1 h with h | h
      · exact absurd h (hschemas hbefore)
      · rcases List.mem_cons.1 h with h | h
        · cases h
        · exact absurd rfl (hrest _ h)
  | failed reason =>
      obtain ⟨before, runner', e', rfl, hbefore, rfl⟩ := hlife
      rcases List.mem_append.1 h with h | h
      · exact absurd h (hschemas hbefore)
      · cases List.mem_singleton.1 h
        rfl

namespace Server

-- ================================================================ gate

/-- `init` is told of parameters that cannot be read wherever the provider is in its life. -/
theorem callFor_unreadable {params : Json} {fault : Fault} (h : readInit params = .error fault)
    (lifecycle : Lifecycle) : callFor lifecycle .init params = .error (unreadableInit fault) := by
  simp only [callFor_init, callOf, parseParams_error h]
  rfl

/-- All else is told of the failure. -/
theorem callFor_failed (reason : String) {kind : Call.Kind} {params : Json}
    (h : kind = .init → ∀ fault, readInit params ≠ .error fault) :
    callFor (.failed reason) kind params = .error (failedInit reason) := by
  by_cases hinit : kind = .init
  · subst hinit
    cases hread : readInit params with
    | error fault => exact absurd hread (h rfl fault)
    | ok runner =>
        simp only [callFor_init, callOf, parseParams_ok hread, gate_failed]
        rfl
  · rw [callFor_of_ne hinit, gate_failed]
    rfl

variable {π : Type} [Provider π]

/-- After a failure no line has an effect on the server. -/
theorem handleLine_of_failed {s : Server π} {reason : String} (h : s.lifecycle = .failed reason)
    (conn : Connection) (line : String) : (s.handleLine conn line).2.1 = s := by
  rcases s.handleLine_server conn line with heq | ⟨c, hgate, -⟩
  · exact heq
  · rw [h, gate_failed] at hgate
    cases hgate

end Server

-- ================================================================ runs

namespace Hub

variable {ι π : Type} [DecidableEq ι] [Provider π]

/-- Nor has a run of lines. -/
theorem run_of_failed {reason : String} (lines : List (ι × String)) : ∀ {hub : Hub ι π},
    hub.server.lifecycle = .failed reason → (run lines hub).2.server = hub.server := by
  induction lines with
  | nil => exact fun _ => rfl
  | cons l lines ih =>
      intro hub h
      have hsame : (hub.line l).2.server = hub.server := Server.handleLine_of_failed h _ l.2
      have hstill : (hub.line l).2.server.lifecycle = .failed reason := by
        rw [hsame]
        exact h
      exact (ih hstill).trans hsame

/-- Over a connection past its handshake, parameters of `init` that cannot be read are told of. -/
theorem line_unreadable {hub : Hub ι π} {i : ι} (hestablished : hub.connections i = .established)
    {line : String} {r : Request} {fault : Fault} (hasks : Asks line r)
    (h : r.Unreadable fault) :
    hub.line (i, line) = (Server.respond r.id (.error (unreadableInit fault)), hub) := by
  have hdispatch := hub.server.dispatch_method h.1
  rw [Server.callFor_unreadable h.2, ← hestablished] at hdispatch
  exact line_of_dispatch hasks hdispatch

/-- Over a failed server, all else is told of the failure. -/
theorem line_failed {hub : Hub ι π} {i : ι} (hestablished : hub.connections i = .established)
    {reason : String} (hfailed : hub.server.lifecycle = .failed reason) {line : String}
    {r : Request} (hasks : Asks line r) {kind : Call.Kind}
    (hmethod : r.method = (Method.call kind).name) (h : ∀ fault, ¬r.Unreadable fault) :
    hub.line (i, line) = (Server.respond r.id (.error (Server.failedInit reason)), hub) := by
  have hcall : Server.callFor hub.server.lifecycle kind r.params
      = .error (Server.failedInit reason) := by
    rw [hfailed]
    refine Server.callFor_failed reason fun hinit fault hfault => ?_
    exact h fault ⟨hinit ▸ hmethod, hfault⟩
  have hdispatch := hub.server.dispatch_method hmethod
  rw [hcall, ← hestablished] at hdispatch
  exact line_of_dispatch hasks hdispatch

/-- Once `init` has failed, whatever lines come in later, over whatever connections, the server
stays as it is, and so does its provider with all that it received and answered. Over a connection
past its handshake every method of a call is told that the provider failed to initialize, with the
code of one that is unavailable, whatever its parameters are; but for an `init` whose parameters
cannot be read, which is told so with the code of invalid parameters. -/
theorem run_failed (p : π) (before : List (ι × String)) {runner : RunnerData} {e : ProviderError}
    (h : ⟨.init runner, .error e⟩ ∈ (after p before).server.provider.log)
    (later : List (ι × String)) :
    let hub := after p (before ++ later)
    hub.server = (after p before).server ∧ hub.server.lifecycle = .failed e.message
      ∧ ∀ i line r kind, (hub.connections i).handshakeComplete = true → Asks line r →
          r.method = (Method.call kind).name →
            ((∀ fault, ¬r.Unreadable fault) → hub.line (i, line)
              = (Server.respond r.id (.error ⟨Code.unavailable,
                  "provider failed to initialize: " ++ e.message, none⟩), hub))
            ∧ ∀ fault, r.Unreadable fault → hub.line (i, line)
              = (Server.respond r.id (.error ⟨Code.invalidParams,
                  "invalid params for Plugin.Init: " ++ fault.message, none⟩), hub) := by
  intro hub
  have hlife : Life (after p before).server.lifecycle (after p before).server.provider.log :=
    run_keeps_life before _ fun _ ha => absurd ha List.not_mem_nil
  have hfailed : (after p before).server.lifecycle = .failed e.message := hlife.eq_failed h
  have hsame : hub.server = (after p before).server := by
    have hlater := run_of_failed later hfailed
    rwa [after, ← run_append] at hlater
  have hstill : hub.server.lifecycle = .failed e.message := hsame ▸ hfailed
  refine ⟨hsame, hstill, fun i line r kind hcomplete hasks hmethod => ?_⟩
  have hreached : Connection.new.Advances (hub.connections i) :=
    run_advances (before ++ later) i (.new ⟨p, []⟩ : Hub ι (Transcript π))
  have hestablished := hreached.eq_established hcomplete
  exact ⟨line_failed hestablished hstill hasks hmethod,
    fun fault => line_unreadable hestablished hasks⟩

/-- The request of a provider call. -/
def callRequest (id : RequestId) (c : Call) : Request := ⟨version, id, c.method.name, c.params⟩

/-- It arrives as it was sent. -/
theorem asks_callRequest (id : RequestId) (c : Call) :
    Asks (callRequest id c).text (callRequest id c) := by
  have hreceived : (callRequest id c).received = callRequest id c := by
    rw [Request.received, callRequest, Call.canonical_params]
  have hdepth : c.params.depth + 1 < maxDepth :=
    Nat.lt_of_le_of_lt (Nat.succ_le_succ c.depth_params_le) (by decide)
  have hasks := asks_text (r := callRequest id c) c.legible_params hdepth rfl
  rwa [hreceived] at hasks

/-- A runner's `init`. -/
def runnerInit : Request := callRequest .null (.init ⟨Demo.runner.global, []⟩)

theorem asks_runnerInit : Asks runnerInit.text runnerInit := asks_callRequest _ _

theorem method_runnerInit : runnerInit.method = (Method.call .init).name := rfl

/-- An `init` that hands over nothing. -/
def emptyInit : Request := ⟨version, .null, (Method.call .init).name, .null⟩

theorem asks_emptyInit : Asks emptyInit.text emptyInit := by
  have hasks := asks_text (r := emptyInit) trivial (by decide) rfl
  rwa [Request.received, emptyInit, canonical_null] at hasks

theorem unreadable_emptyInit : emptyInit.Unreadable (.wrongType .null "struct InitParams") :=
  ⟨rfl, rfl⟩

/-- A demonstration provider that fails `init`, when it has. -/
def demoFailed : Server (Transcript Demo) :=
  ⟨⟨.new true, [⟨.init ⟨Demo.runner.global, []⟩, .error (.failed "vendor credentials rejected")⟩]⟩,
    .failed "provider failure: vendor credentials rejected"⟩

/-- It comes of a handshake and an `init`. -/
theorem after_demoFailed {opening initializing : String} (hopening : Asks opening runnerHandshake)
    (hinitializing : Asks initializing runnerInit) :
    let hub : Hub Nat (Transcript Demo) := after (.new true) [(0, opening), (0, initializing)]
    hub.server = demoFailed ∧ hub.connections 0 = .established := by
  let start : Hub Nat (Transcript Demo) := .new ⟨.new true, []⟩
  let opened := (start.line (0, opening)).2
  have hshaken := Server.handleLine_of_asks hopening start.server .new
  rw [Server.dispatch_agreed agrees_runnerHandshake] at hshaken
  have hserver : opened.server = start.server := congrArg (·.2.1) hshaken
  have hconnection : opened.connections 0 = .established := congrArg (·.2.2) hshaken
  have hcall : Server.callFor start.server.lifecycle .init runnerInit.params
      = .ok (.init ⟨Demo.runner.global, []⟩) :=
    Server.callFor_params (c := .init ⟨Demo.runner.global, []⟩) List.Pairwise.nil _
  have hasked : (opened.server.handleLine (opened.connections 0) initializing).2
      = (demoFailed, .established) := by
    rw [hserver, hconnection, Server.handleLine_of_asks hinitializing,
      Server.dispatch_method method_runnerInit, hcall]
    rfl
  exact ⟨congrArg Prod.fst hasked,
    (connections_line_self (0, initializing) opened).trans (congrArg Prod.snd hasked)⟩

/-- What it is told of an `init` that hands over nothing is not that it failed. -/
theorem refusal_not_whatever_params :
    ¬∀ (lines : List (Nat × String)) (runner : RunnerData) (e : ProviderError),
      ⟨.init runner, .error e⟩ ∈ (after (Demo.new true) lines).server.provider.log →
        ∀ i line r kind, ((after (Demo.new true) lines).connections i).handshakeComplete = true →
          Asks line r → r.method = (Method.call kind).name →
            ((after (Demo.new true) lines).line (i, line)).1.error.map Error.code
              = some Code.unavailable := by
  intro hwhatever
  obtain ⟨hserver, hconnection⟩ := after_demoFailed asks_runnerHandshake asks_runnerInit
  have hunavailable := hwhatever _ ⟨Demo.runner.global, []⟩ (.failed "vendor credentials rejected")
    (by rw [hserver]; exact List.mem_singleton.2 rfl) 0 _ _ .init (by rw [hconnection]; rfl)
    asks_emptyInit rfl
  rw [line_unreadable hconnection asks_emptyInit unreadable_emptyInit] at hunavailable
  cases hunavailable

/-- Told to start once more, the failed demonstration provider is unavailable; but an `init` that
hands over nothing is answered as it always is. -/
theorem run_failed_demo :
    let failure := ProviderError.failed "vendor credentials rejected"
    let fault := Fault.wrongType .null "struct InitParams"
    let unavailable := Server.respond .null (.error ⟨Code.unavailable,
      "provider failed to initialize: " ++ failure.message, none⟩)
    let invalid := Server.respond .null (.error ⟨Code.invalidParams,
      "invalid params for Plugin.Init: " ++ fault.message, none⟩)
    let hub : Hub Nat (Transcript Demo) :=
      after (.new true) [(0, runnerHandshake.text), (0, runnerInit.text)]
    ⟨.init ⟨Demo.runner.global, []⟩, .error failure⟩ ∈ hub.server.provider.log
      ∧ hub.line (0, runnerInit.text) = (unavailable, hub)
      ∧ hub.line (0, emptyInit.text) = (invalid, hub) := by
  intro failure fault unavailable invalid
  -- what the lines ask is all that matters of them
  have hlines : ∀ {opening initializing empty}, Asks opening runnerHandshake →
      Asks initializing runnerInit → Asks empty emptyInit →
      let hub : Hub Nat (Transcript Demo) := after (.new true) [(0, opening), (0, initializing)]
      ⟨.init ⟨Demo.runner.global, []⟩, .error failure⟩ ∈ hub.server.provider.log
        ∧ hub.line (0, initializing) = (unavailable, hub)
        ∧ hub.line (0, empty) = (invalid, hub) := by
    intro opening initializing empty hopening hinitializing hempty hub
    obtain ⟨hserver, hconnection⟩ := after_demoFailed hopening hinitializing
    have hlog : ⟨.init ⟨Demo.runner.global, []⟩, .error failure⟩ ∈ hub.server.provider.log := by
      rw [hserver]
      exact List.mem_singleton.2 rfl
    have hcomplete : (hub.connections 0).handshakeComplete = true := by rw [hconnection]; rfl
    have hreadable : ∀ fault, ¬runnerInit.Unreadable fault := by
      rintro fault ⟨-, hfault⟩
      cases hfault.symm.trans (readInit_canonical (r := ⟨Demo.runner.global, []⟩)
        List.Pairwise.nil)
    obtain ⟨-, -, htold⟩ := run_failed (e := failure) (Demo.new true)
      [(0, opening), (0, initializing)] hlog []
    have hinit := htold 0 initializing runnerInit .init hcomplete hinitializing method_runnerInit
    have hnothing := htold 0 empty emptyInit .init hcomplete hempty rfl
    exact ⟨hlog, hinit.1 hreadable, hnothing.2 fault unreadable_emptyInit⟩
  exact hlines asks_runnerHandshake asks_runnerInit asks_emptyInit

end Hub

end ProviderLink.Rpc
