/-
What the check of a configuration says of initializing a provider with
it. The check is made against a schema that the provider returned, before
there is a roster; initializing makes its own, against the schema that it
asks for. As long as these are the same, initializing gets past its check
to the provider exactly if the configuration passes, and if not, it comes
back with the cause of the same context (`initOnce_of_error`,
`log_initOnce_of_ok`).

The demonstration provider checks the contexts once more as it is
initialized, and that check has been made (`initOnce_demo`). Nothing else
in it can fail, so it is registered or ready at all times (`Unfailing`),
and so is a client of it, and either of them in a roster
(`Demo.Behind.simulates`).
-/
import ProviderLink.Proofs.Runner.Coherence
import ProviderLink.Proofs.Runner.Contexts

namespace ProviderLink

open Rpc RunnerConfig

namespace Managed

-- ========================================================= any provider

section Any

variable {π : Type} [Provider π] {runner : RunnerData} {schema : ObjectSchema} {name : String}

/-- What the check refuses, the provider does not get to see. -/
theorem initOnce_of_error {m : Managed π} {cause : ProviderError} (hm : m.status = .registered)
    (hschema : (m.call .initSchema).1 = .ok schema)
    (hcheck : Roster.checkContexts schema runner.userConfig = .error cause) :
    m.initOnce name runner = (.error (.provider name cause), (m.call .initSchema).2) := by
  unfold initOnce Roster.initManaged
  rw [hm]
  dsimp only
  rw [hschema]
  simp only [Except.bind, hcheck]

/-- What it passes is what the provider is initialized with. -/
theorem initOnce_of_ok {m : Managed π} {config : ProviderConfig} (hm : m.status = .registered)
    (hschema : (m.call .initSchema).1 = .ok schema)
    (hcheck : Roster.checkContexts schema runner.userConfig = .ok ())
    (hinit : ((m.call .initSchema).2.call (.init runner)).1 = .ok config) :
    m.initOnce name runner
      = (.ok config,
        { ((m.call .initSchema).2.call (.init runner)).2 with status := .ready config }) := by
  unfold initOnce Roster.initManaged
  rw [hm]
  dsimp only
  rw [hschema]
  simp only [Except.bind, hcheck, hinit]

/-- Whatever comes of that. -/
theorem log_initOnce_of_ok (name : String) {m : Managed (Transcript π)} (hm : m.status = .registered)
    (hschema : (m.call .initSchema).1 = .ok schema)
    (hcheck : Roster.checkContexts schema runner.userConfig = .ok ()) :
    ∃ outcome, (m.initOnce name runner).2.provider.log
      = m.provider.log ++ [⟨.initSchema, .ok schema⟩, ⟨.init runner, outcome⟩] := by
  have hasked := log_call .initSchema m
  have hboth := log_call (.init runner) (m.call .initSchema).2
  rw [hasked, hschema, List.append_assoc] at hboth
  refine ⟨_, Eq.trans ?_ hboth⟩
  unfold initOnce Roster.initManaged
  rw [hm]
  dsimp only
  rw [hschema]
  simp only [Except.bind, hcheck]
  split <;> rfl

end Any

-- ============================================================ unfailing

variable {m : Managed Demo} {name : String}

/-- A demonstration provider that is not to fail, registered or ready. -/
structure Unfailing (m : Managed Demo) : Prop where
  failing : m.provider.failing = false
  status : m.status = .registered ∨ m.status = .ready ⟨true⟩

theorem unfailing_new : Unfailing ⟨.new false, .registered, []⟩ := ⟨rfl, Or.inl rfl⟩

/-- Initializing it comes to what the check comes to. -/
theorem initOnce_demo (hfailing : m.provider.failing = false) (hm : m.status = .registered)
    (runner : RunnerData) :
    m.initOnce name runner
      = match Roster.checkContexts Demo.initSchema runner.userConfig with
        | .ok () => (.ok ⟨true⟩, { m with status := .ready ⟨true⟩ })
        | .error cause => (.error (.provider name cause), m) := by
  cases hcheck : Roster.checkContexts Demo.initSchema runner.userConfig with
  | error cause => exact initOnce_of_error hm rfl hcheck
  | ok =>
      have hinit : m.provider.init runner = .ok ⟨true⟩ := by
        rw [Demo.init, hfailing, Demo.checkContexts_eq, hcheck]
        rfl
      exact initOnce_of_ok hm rfl hcheck hinit

/-- No operation makes it fail. -/
theorem Unfailing.perform (h : Unfailing m) (o : Operation) :
    Unfailing (m.perform name o).2 := by
  refine ⟨provider_perform (P := fun d : Demo => d.failing = false) ?_ h.failing name o, ?_⟩
  · intro c d hd
    cases c <;> exact hd
  · by_cases ho : ∃ runner, o = .init runner
    · obtain ⟨runner, rfl⟩ := ho
      rcases h.status with hregistered | hready
      · rw [Managed.perform, initOnce_demo h.failing hregistered]
        split
        · exact Or.inr rfl
        · exact Or.inl hregistered
      · rw [Managed.perform, initOnce, hready]
        exact Or.inr hready
    · rw [status_perform name (fun runner heq => ho ⟨runner, heq⟩)]
      exact h.status

theorem Unfailing.run (name : String) (ops : List Operation) : ∀ {m : Managed Demo},
    Unfailing m → Unfailing (m.run name ops).2 := by
  induction ops with
  | nil => exact fun h => h
  | cons o ops ih => exact fun h => ih (h.perform o)

end Managed

-- ============================================================== rosters

namespace Roster

variable {name : String}

/-- A provider that returned the schema of a check is initialized if the check passes, and else
is asked for nothing more. -/
theorem init_checked {π : Type} [Provider π] {r : Roster (Transcript π)}
    {m : Managed (Transcript π)} (hentry : Dict.get? name r = some m)
    (hm : m.status = .registered) {schema : ObjectSchema}
    (hschema : (m.call .initSchema).1 = .ok schema) (runner : RunnerData) :
    ∃ m', Dict.get? name (r.init name runner).2 = some m'
      ∧ (checkUserConfig schema runner.userConfig = .ok () ↔
          ∃ outcome, m'.provider.log
            = m.provider.log ++ [⟨.initSchema, .ok schema⟩, ⟨.init runner, outcome⟩])
      ∧ ∀ fault, checkUserConfig schema runner.userConfig = .error fault →
          (r.init name runner).1 = .error (.provider name fault.cause)
            ∧ m'.status = .registered
            ∧ m'.provider.log = m.provider.log ++ [⟨.initSchema, .ok schema⟩] := by
  obtain ⟨hresult, hafter⟩ := init_at hentry runner
  have hcontexts := checkContexts_eq schema runner.userConfig
  refine ⟨_, hafter, ?_⟩
  rw [hresult]
  cases hcheck : checkUserConfig schema runner.userConfig with
  | ok =>
      rw [hcheck] at hcontexts
      have hlog := Managed.log_initOnce_of_ok name hm hschema hcontexts
      exact ⟨⟨fun _ => hlog, fun _ => rfl⟩, nofun⟩
  | error fault =>
      rw [hcheck] at hcontexts
      rw [Managed.initOnce_of_error hm hschema hcontexts]
      have hlog : (m.call .initSchema).2.provider.log
          = m.provider.log ++ [⟨.initSchema, .ok schema⟩] := by
        rw [Managed.log_call, hschema]
      refine ⟨⟨nofun, ?_⟩, ?_⟩
      · rintro ⟨outcome, hboth⟩
        -- one thing was asked, not two
        have hlength := congrArg List.length (hlog.symm.trans hboth)
        simp at hlength
      · rintro _ ⟨rfl⟩
        exact ⟨rfl, hm, hlog⟩

/-- A provider that is ready tells its configuration again. -/
theorem init_of_ready {π : Type} [Provider π] {r : Roster π} {m : Managed π}
    (hentry : Dict.get? name r = some m) {config : ProviderConfig}
    (hm : m.status = .ready config) (runner : RunnerData) :
    r.init name runner = (.ok config, r) := by
  unfold init
  rw [managed_of_get? hentry]
  dsimp only
  rw [hm]

/-- What becomes of a demonstration provider that is initialized is told by the check. -/
theorem init_unfailing {π : Type} [Provider π] {R : Managed π → Managed Demo → Prop}
    (hR : Managed.Simulates name R) {r : Roster π} {m : Managed π} {d : Managed Demo}
    (hentry : Dict.get? name r = some m) (hrelated : R m d) (hd : d.Unfailing)
    {runner : RunnerData} (hrunner : Dict.Sorted runner.userConfig) :
    (r.status name = .ok .registered
        ∧ (checkUserConfig Demo.initSchema runner.userConfig = .ok () →
            (r.init name runner).2.status name = .ok (.ready ⟨true⟩))
        ∧ ∀ fault, checkUserConfig Demo.initSchema runner.userConfig = .error fault →
            (r.init name runner).2.status name = .ok .registered
              ∧ (r.init name runner).1 = .error (.provider name fault.cause))
      ∨ (r.status name = .ok (.ready ⟨true⟩) ∧ r.init name runner = (.ok ⟨true⟩, r)) := by
  have hstatus : m.status = d.status := Managed.status_of_simulates hR hrelated
  have hnow : r.status name = .ok d.status := hstatus ▸ status_at hentry
  rcases hd.status with hregistered | hready
  · obtain ⟨hresult, hafter⟩ := perform_at hentry (.init runner)
    have hsame := Managed.status_of_simulates hR (hR.after hrelated (.init runner) hrunner)
    have hlater : (r.init name runner).2.status name
        = .ok (d.perform name (.init runner)).2.status := hsame ▸ status_at hafter
    have hgiven : (r.init name runner).1 = (d.perform name (.init runner)).1 :=
      hresult.trans (hR.output hrelated (.init runner) hrunner)
    rw [Managed.perform, Managed.initOnce_demo hd.failing hregistered, checkContexts_eq]
      at hlater hgiven
    refine Or.inl ⟨hregistered ▸ hnow, fun hcheck => ?_, fun fault hcheck => ?_⟩
    · rw [hcheck] at hlater
      exact hlater
    · rw [hcheck] at hlater hgiven
      exact ⟨hlater.trans (congrArg Except.ok hregistered), hgiven⟩
  · exact Or.inr ⟨hready ▸ hnow, init_of_ready hentry (hstatus.trans hready) runner⟩

/-- Whatever a configuration says, checking it against the schema of a provider foretells what
initializing the provider with it comes to. Of contexts that do not decode the first in the order
of the ids is reported, with the mismatch. A provider that returns this schema is initialized if
the check passes; if not, it is asked for nothing but the schema, stays registered, and the
mismatch reported is the same. The demonstration provider, itself or through a client and whatever
was done with it and with others before, is at no time one that failed: one that is registered
becomes ready if the check passes and else stays registered, and one that is ready stays so. -/
theorem init_foretold (config : RunnerConfig) (hsorted : Dict.Sorted config.userConfig)
    (name : String) :
    (∀ schema fault, checkUserConfig schema config.userConfig = .error fault
        ↔ FirstMismatch schema config.userConfig fault)
      ∧ (∀ (π : Type) [Provider π] (r : Roster (Transcript π)) (m : Managed (Transcript π)) schema,
          Dict.get? name r = some m → m.status = .registered →
          (m.call .initSchema).1 = .ok schema →
          let check := checkUserConfig schema config.userConfig
          let inited := r.init name config.toRunnerData
          ∃ m', Dict.get? name inited.2 = some m'
            ∧ (check = .ok () ↔ ∃ outcome, m'.provider.log = m.provider.log
                ++ [⟨.initSchema, .ok schema⟩, ⟨.init config.toRunnerData, outcome⟩])
            ∧ ∀ fault, check = .error fault →
                inited.1 = .error (.provider name fault.cause) ∧ m'.status = .registered
                  ∧ m'.provider.log = m.provider.log ++ [⟨.initSchema, .ok schema⟩])
      ∧ ∀ (ρ : Type) [Provider ρ] (p : Demo ⊕ Client (LocalLink Demo))
          (before later : List (Command ((Demo ⊕ Client (LocalLink Demo)) ⊕ ρ))),
          Demo.Behind false p →
          ((after before).execute (.register name (.inl p))).1 = .ok () →
          (∀ o ∈ later.flatMap (Command.asks name), o.Ordered) →
          let now := after (before ++ .register name (.inl p) :: later)
          let check := checkUserConfig Demo.initSchema config.userConfig
          let inited := now.init name config.toRunnerData
          (now.status name = .ok .registered
              ∧ (inited.2.status name = .ok (.ready ⟨true⟩) ↔ check = .ok ())
              ∧ (inited.2.status name = .ok .registered ↔ ∃ fault, check = .error fault)
              ∧ (∀ fault, check = .error fault →
                  inited.1 = .error (.provider name fault.cause))
              ∧ ∀ reason, inited.2.status name ≠ .ok (.failed reason))
            ∨ (now.status name = .ok (.ready ⟨true⟩) ∧ inited = (.ok ⟨true⟩, now)) := by
  refine ⟨fun schema fault => checkUserConfig_eq_error hsorted,
    fun π _ r m schema hentry hm hschema => init_checked hentry hm hschema config.toRunnerData,
    fun ρ _ p before later hp hregistered hlater => ?_⟩
  intro now check inited
  obtain ⟨R, hR, hfresh⟩ := hp.simulates ρ name
  have hentry := get?_after_register hregistered later
  have hrelated := Managed.run_of_simulates hR _ hfresh hlater
  have hunfailing := Managed.unfailing_new.run name (later.flatMap (Command.asks name))
  rcases init_unfailing hR hentry hrelated hunfailing hsorted with
    ⟨hnow, hok, herror⟩ | hready
  · refine Or.inl ⟨hnow, ?_⟩
    cases hcheck : check with
    | ok =>
        have hstatus : inited.2.status name = .ok (.ready ⟨true⟩) := hok hcheck
        rw [hstatus]
        exact ⟨⟨fun _ => rfl, fun _ => rfl⟩, ⟨nofun, nofun⟩, nofun, nofun⟩
    | error fault =>
        have hstatus : inited.2.status name = .ok .registered := (herror fault hcheck).1
        rw [hstatus]
        refine ⟨⟨nofun, nofun⟩, ⟨fun _ => ⟨fault, rfl⟩, fun _ => rfl⟩, ?_, nofun⟩
        rintro _ ⟨rfl⟩
        exact (herror fault hcheck).2
  · exact Or.inr hready

/-- A context that the demonstration provider takes, and one without input. -/
def demoContexts (token : Bytes) : RunnerConfig :=
  { global := Demo.runner.global, userConfig := [("acme", token), ("beta", .empty)],
    protocolVersion := none }

/-- The second context is what the provider is not initialized for. -/
theorem init_foretold_demo :
    let config := demoContexts (Json.object [("token", .string "t-1")]).text.toUTF8
    let fault : ContextFault := ⟨"beta", .schemaMismatch "input must not be empty"⟩
    let registered := Command.register "demo" (.inl (.inl (Demo.new false)))
    let now : Roster (Transcript ((Demo ⊕ Client (LocalLink Demo)) ⊕ Demo)) := after [registered]
    let inited := now.init "demo" config.toRunnerData
    Dict.Sorted config.userConfig
      ∧ checkUserConfig Demo.initSchema config.userConfig = .error fault
      ∧ FirstMismatch Demo.initSchema config.userConfig fault
      ∧ inited.1 = .error (.provider "demo" fault.cause)
      ∧ inited.2.status "demo" = .ok .registered := by
  have hlegible : (Json.object [("token", .string "t-1")]).Legible := by
    simp [Json.Legible, Json.LegibleMembers]
  have hparse := Codec.parse_text hlegible (by decide) (by decide)
  have hdecodes : ∃ v, Codec.decodeInput (Json.object [("token", .string "t-1")]).text.toUTF8
      Demo.initSchema = .ok v :=
    ⟨_, Codec.decodeInput_steps.2 ⟨_, hparse, rfl, rfl⟩⟩
  -- what it is a text of no longer matters
  generalize (Json.object [("token", .string "t-1")]).text.toUTF8 = token at hdecodes
  intro config fault registered now inited
  have hcheck : checkUserConfig Demo.initSchema config.userConfig = .error fault := by
    obtain ⟨v, hv⟩ := hdecodes
    rw [show config.userConfig = [("acme", token), ("beta", .empty)] from rfl,
      checkUserConfig_cons, hv]
    rfl
  have hsorted : Dict.Sorted config.userConfig := by
    refine List.pairwise_cons.2 ⟨fun c hc => ?_, List.pairwise_singleton ..⟩
    rw [List.mem_singleton.1 hc]
    exact (by decide : "acme" < "beta")
  obtain ⟨hfirst, -, hdemo⟩ := init_foretold config hsorted "demo"
  have hregistered : ((after []).execute registered).1 = .ok () := rfl
  rcases hdemo Demo (.inl (.new false)) [] [] .direct hregistered nofun with
    ⟨-, -, hstays, hgiven, -⟩ | ⟨hready, -⟩
  · exact ⟨hsorted, hcheck, (hfirst _ fault).1 hcheck, hgiven fault hcheck,
      hstays.2 ⟨fault, hcheck⟩⟩
  · -- nobody initialized it yet
    cases hready

end Roster

end ProviderLink
