/-
What a provider lives through with its runner. It is registered; it is
asked for its schema, at each attempt to initialize it; once the
configuration of every context fits a schema it returned, it is
initialized, and never again (`Tenure`). A failure of that is the last
thing that reaches it, and only a success opens it to anything else.

One operation moves an entry in one of four ways (`Moves`). Initializing
has the most of them: a provider that is registered declines with its
schema or with the first context that does not fit, and stays as it is,
or it is initialized with the very configuration that was held against
its schema (`initManaged_moves`). All other operations pass the one gate
of a provider that is ready (`askNoting_moves`). The moves keep a tenure
a tenure (`Moves.tenure`), and that is the induction over the commands
of a runner.
-/
import ProviderLink.Proofs.Runner.Command
import ProviderLink.Proofs.Runner.Contexts

namespace ProviderLink

-- =============================================================== moves

namespace Managed

variable {π : Type}

/-- What an operation may do to an entry. -/
inductive Moves : Operation → Managed (Transcript π) → Managed (Transcript π) → Prop
  /-- The provider is asked nothing; initializing one that is registered is never that. -/
  | unasked {o : Operation} {m : Managed (Transcript π)}
    (h : ∀ runner, o = .init runner → m.status ≠ .registered) : Moves o m m
  /-- A provider that is ready is asked one thing; initializing it is never that. -/
  | asked {o : Operation} {m m' : Managed (Transcript π)} (ho : ∀ runner, o ≠ .init runner)
    (a : Answered) (config : ProviderConfig) (hready : m.status = .ready config)
    (ha : a.call.kind ≠ .init) (hstatus : m'.status = .ready config)
    (hlog : m'.provider.log = m.provider.log ++ [a]) : Moves o m m'
  /-- A provider that is registered returns no schema. -/
  | unschemed {m m' : Managed (Transcript π)} (runner : RunnerData) (e : ProviderError)
    (hregistered : m.status = .registered) (hstatus : m'.status = .registered)
    (hlog : m'.provider.log = m.provider.log ++ [⟨.initSchema, .error e⟩]) :
    Moves (.init runner) m m'
  /-- It returns one that some context does not decode against. -/
  | declined {m m' : Managed (Transcript π)} (runner : RunnerData) (schema : ObjectSchema)
    (c : String × Bytes) (e : ProviderError) (hregistered : m.status = .registered)
    (hc : c ∈ runner.userConfig) (he : Codec.decodeInput c.2 schema = .error e)
    (hstatus : m'.status = .registered)
    (hlog : m'.provider.log = m.provider.log ++ [⟨.initSchema, .ok schema⟩]) :
    Moves (.init runner) m m'
  /-- It is initialized: all contexts decode against the schema it returned. -/
  | readied {m m' : Managed (Transcript π)} (runner : RunnerData) (schema : ObjectSchema)
    (config : ProviderConfig) (hregistered : m.status = .registered)
    (hdecodes : runner.Decodes schema) (hstatus : m'.status = .ready config)
    (hlog : m'.provider.log = m.provider.log
      ++ [⟨.initSchema, .ok schema⟩, ⟨.init runner, .ok config⟩]) :
    Moves (.init runner) m m'
  /-- It is, and fails. -/
  | failed {m m' : Managed (Transcript π)} (runner : RunnerData) (schema : ObjectSchema)
    (e : ProviderError) (hregistered : m.status = .registered)
    (hdecodes : runner.Decodes schema) (hstatus : m'.status = .failed e.message)
    (hlog : m'.provider.log = m.provider.log
      ++ [⟨.initSchema, .ok schema⟩, ⟨.init runner, .error e⟩]) :
    Moves (.init runner) m m'

section Operating

variable [Provider π]

/-- All but initializing passes the gate of a provider that is ready. -/
theorem askNoting_moves (name : String) {o : Operation} (ho : ∀ runner, o ≠ .init runner)
    {c : Call} (hc : c.kind ≠ .init)
    {note : Outcome c.Reply → Managed (Transcript π) → Managed (Transcript π)}
    (hprovider : ∀ reply m, (note reply m).provider = m.provider)
    (hstatus : ∀ reply m, (note reply m).status = m.status) (m : Managed (Transcript π)) :
    Moves o m (m.askNoting name c note).2 := by
  have hunasked : Moves o m m := .unasked fun runner heq => absurd heq (ho runner)
  unfold askNoting
  split
  · next config hready =>
    refine .asked ho ⟨c, (m.call c).1⟩ config hready hc ((hstatus ..).trans hready) ?_
    rw [hprovider]
    exact log_call c m
  · exact hunasked
  · exact hunasked

/-- Initializing a provider for the first time. -/
theorem initManaged_moves (name : String) (runner : RunnerData) {m : Managed (Transcript π)}
    (h : m.status = .registered) : Moves (.init runner) m (Roster.initManaged name runner m).2 := by
  have hlog := log_call .initSchema m
  unfold Roster.initManaged
  dsimp only
  cases hreply : (m.call .initSchema).1 with
  | error e =>
      rw [hreply] at hlog
      exact .unschemed runner e h h hlog
  | ok schema =>
      rw [hreply] at hlog
      simp only [Except.bind]
      split
      · next e he =>
        obtain ⟨before, c, rest, hcontexts, -, hc⟩ := Roster.exists_of_checkContexts he
        have hmem : c ∈ runner.userConfig := by
          rw [hcontexts]
          exact List.mem_append_right _ (List.mem_cons_self ..)
        exact .declined runner schema c e h hmem hc h hlog
      · next hok =>
        have hdecodes : runner.Decodes schema := Roster.checkContexts_eq_ok.1 hok
        have hboth := log_call (.init runner) (m.call .initSchema).2
        rw [hlog, List.append_assoc] at hboth
        split
        · next config hconfig =>
          rw [hconfig] at hboth
          exact .readied runner schema config h hdecodes rfl hboth
        · next e he =>
          rw [he] at hboth
          exact .failed runner schema e h hdecodes rfl hboth

/-- Every operation is a move. -/
theorem perform_moves (name : String) (o : Operation) (m : Managed (Transcript π)) :
    Moves o m (m.perform name o).2 := by
  cases o with
  | init runner =>
      rw [perform, initOnce]
      split
      · next config hready => exact .unasked fun _ _ => hready ▸ Status.noConfusion
      · next reason hfailed => exact .unasked fun _ _ => hfailed ▸ Status.noConfusion
      · next hregistered => exact initManaged_moves name runner hregistered
  | status | lastState => exact .unasked fun _ => Operation.noConfusion
  | evaluateAction | mapPayloadToTriggerKey | createSubscription =>
      exact askNoting_moves name (fun _ => Operation.noConfusion) Call.Kind.noConfusion
        (fun _ _ => rfl) (fun _ _ => rfl) m
  | readSubscription | updateSubscription | deleteSubscription =>
      exact askNoting_moves name (fun _ => Operation.noConfusion) Call.Kind.noConfusion
        (fun _ m => provider_note m _ _ _) (fun _ m => status_note m _ _ _) m
  | introspect c hinit =>
      exact askNoting_moves name (fun _ => Operation.noConfusion) hinit (fun _ _ => rfl)
        (fun _ _ => rfl) m

end Operating

-- ============================================================== tenure

/-- What a provider of this status has been asked, and what it answered: schemas alone; or
schemas, then `init` with a configuration that decodes against the last of them, and after a
success anything else but `init`, after a failure nothing. -/
def Tenure : Status → List Answered → Prop
  | .registered, log => ∀ a ∈ log, a.call = .initSchema
  | .ready config, log => ∃ before schema runner rest,
      log = before ++ ⟨.initSchema, .ok schema⟩ :: ⟨.init runner, .ok config⟩ :: rest
        ∧ (∀ a ∈ before, a.call = .initSchema) ∧ runner.Decodes schema
        ∧ ∀ a ∈ rest, a.call.kind ≠ .init
  | .failed reason, log => ∃ before schema runner e,
      log = before ++ [⟨.initSchema, .ok schema⟩, ⟨.init runner, .error e⟩]
        ∧ (∀ a ∈ before, a.call = .initSchema) ∧ runner.Decodes schema ∧ reason = e.message

variable {o : Operation} {m m' : Managed (Transcript π)}

/-- One more request for the schema. -/
theorem forall_initSchema_append {log : List Answered} (h : ∀ a ∈ log, a.call = .initSchema)
    (reply : Outcome ObjectSchema) :
    ∀ a ∈ log ++ [⟨.initSchema, reply⟩], a.call = .initSchema := by
  intro a ha
  rcases List.mem_append.1 ha with ha | ha
  · exact h a ha
  · rw [List.mem_singleton.1 ha]

/-- Moves keep a tenure a tenure. -/
theorem Moves.tenure (h : Moves o m m') (htenure : Tenure m.status m.provider.log) :
    Tenure m'.status m'.provider.log := by
  cases h with
  | unasked => exact htenure
  | asked ho a config hready ha hstatus hlog =>
      rw [hready] at htenure
      obtain ⟨before, schema, runner, rest, hbefore, hschemas, hdecodes, hrest⟩ := htenure
      rw [hstatus, hlog, hbefore]
      refine ⟨before, schema, runner, rest ++ [a], ?_, hschemas, hdecodes, fun b hb => ?_⟩
      · rw [List.append_assoc, List.cons_append, List.cons_append]
      · rcases List.mem_append.1 hb with hb | hb
        · exact hrest b hb
        · rw [List.mem_singleton.1 hb]
          exact ha
  | unschemed runner e hregistered hstatus hlog =>
      rw [hregistered] at htenure
      rw [hstatus, hlog]
      exact forall_initSchema_append htenure _
  | declined runner schema c e hregistered hc he hstatus hlog =>
      rw [hregistered] at htenure
      rw [hstatus, hlog]
      exact forall_initSchema_append htenure _
  | readied runner schema config hregistered hdecodes hstatus hlog =>
      rw [hregistered] at htenure
      rw [hstatus, hlog]
      exact ⟨_, schema, runner, [], rfl, htenure, hdecodes, fun _ ha => nomatch ha⟩
  | failed runner schema e hregistered hdecodes hstatus hlog =>
      rw [hregistered] at htenure
      rw [hstatus, hlog]
      exact ⟨_, schema, runner, e, rfl, htenure, hdecodes, rfl⟩

theorem tenure_fresh (p : π) : Tenure (fresh p).status (fresh p).provider.log :=
  fun _ ha => absurd ha List.not_mem_nil

/-- A provider is initialized once at most. -/
theorem Tenure.count_init_le {status : Status} {log : List Answered} (h : Tenure status log) :
    log.countP (fun a => a.call.kind = .init) ≤ 1 := by
  have hnone : ∀ {l : List Answered}, (∀ a ∈ l, a.call.kind ≠ .init) →
      l.countP (fun a => a.call.kind = .init) = 0 := by
    intro l hl
    refine List.countP_eq_zero.2 fun a ha => ?_
    rw [decide_eq_true_eq]
    exact hl a ha
  have hschemas : ∀ {l : List Answered}, (∀ a ∈ l, a.call = .initSchema) →
      l.countP (fun a => a.call.kind = .init) = 0 := by
    intro l hl
    refine hnone fun a ha => ?_
    rw [hl a ha]
    exact Call.Kind.noConfusion
  cases status with
  | registered => exact Nat.le_trans (Nat.le_of_eq (hschemas h)) (Nat.zero_le 1)
  | ready config =>
      obtain ⟨before, schema, runner, rest, rfl, hbefore, -, hrest⟩ := h
      rw [List.countP_append, hschemas hbefore, List.countP_cons, List.countP_cons, hnone hrest]
      exact Nat.le_refl 1
  | failed reason =>
      obtain ⟨before, schema, runner, e, rfl, hbefore, -, -⟩ := h
      rw [List.countP_append, hschemas hbefore]
      exact Nat.le_refl 1

-- ============================================================ for good

/-- A provider that is not registered any more keeps its status. -/
theorem Moves.status (h : Moves o m m') (hm : m.status ≠ .registered) :
    m'.status = m.status := by
  cases h with
  | unasked => rfl
  | asked ho a config hready ha hstatus hlog => exact hstatus.trans hready.symm
  | unschemed _ _ hregistered | declined _ _ _ _ hregistered | readied _ _ _ hregistered
  | failed _ _ _ hregistered => exact absurd hregistered hm

/-- A provider that failed is asked nothing. -/
theorem Moves.eq_of_failed (h : Moves o m m') {reason : String}
    (hm : m.status = .failed reason) : m' = m := by
  cases h with
  | unasked => rfl
  | asked ho a config hready => rw [hm] at hready; cases hready
  | unschemed _ _ hregistered | declined _ _ _ _ hregistered | readied _ _ _ hregistered
  | failed _ _ _ hregistered => rw [hm] at hregistered; cases hregistered

variable [Provider π]

theorem status_run (name : String) (ops : List Operation) : ∀ m : Managed (Transcript π),
    m.status ≠ .registered → (m.run name ops).2.status = m.status := by
  induction ops with
  | nil => exact fun _ _ => rfl
  | cons o ops ih =>
      intro m hm
      have hstatus := (perform_moves name o m).status hm
      exact (ih _ (hstatus ▸ hm)).trans hstatus

theorem run_of_failed (name : String) (ops : List Operation) {m : Managed (Transcript π)}
    {reason : String} (hm : m.status = .failed reason) : (m.run name ops).2 = m := by
  induction ops with
  | nil => rfl
  | cons o ops ih =>
      rw [run_cons]
      dsimp only
      rw [(perform_moves name o m).eq_of_failed hm]
      exact ih

end Managed

-- ================================================================ runs

namespace Roster

variable {π : Type} [Provider π]

/-- Whatever a runner does with its roster, with whatever data each time, each of its providers
has at any moment a tenure behind it, with `init` in it once at most. The next command moves it
as `Moves` says if it asks something of it, and else not at all. Being ready and having failed
are for good, a provider that failed is never asked again, and one that is ready reports its
configuration without being asked. -/
theorem run_tenure (commands : List (Command π)) {name : String} {m : Managed (Transcript π)}
    (h : Dict.get? name (after commands) = some m) :
    Managed.Tenure m.status m.provider.log
      ∧ m.provider.log.countP (fun a => a.call.kind = .init) ≤ 1
      ∧ (∀ c : Command π, ∃ m', Dict.get? name (after (commands ++ [c])) = some m'
          ∧ ((c.asks name = [] ∧ m' = m) ∨ ∃ o, c.asks name = [o] ∧ Managed.Moves o m m'))
      ∧ (∀ more : List (Command π), ∃ m', Dict.get? name (after (commands ++ more)) = some m'
          ∧ (m.status ≠ .registered → m'.status = m.status)
          ∧ ∀ reason, m.status = .failed reason → m' = m)
      ∧ ∀ runner config, m.status = .ready config →
          (after commands).init name runner = (.ok config, after commands) := by
  have hsorted : Dict.Sorted (after commands) := sorted_executeAll commands List.Pairwise.nil
  have htenure : Managed.Tenure m.status m.provider.log := by
    refine entry_induction (P := fun m => Managed.Tenure m.status m.provider.log)
      Managed.tenure_fresh (fun o m hm => ?_) commands List.Pairwise.nil
      (fun _ hnone => nomatch hnone) h
    exact (Managed.perform_moves name o m).tenure hm
  have hmore : ∀ more : List (Command π), Dict.get? name (after (commands ++ more))
      = some (m.run name (more.flatMap (Command.asks name))).2 := by
    intro more
    rw [after, executeAll_append]
    exact executeAll_at more hsorted h
  refine ⟨htenure, htenure.count_init_le, fun c => ⟨_, hmore [c], ?_⟩,
    fun more => ⟨_, hmore more, ?_, ?_⟩, fun runner config hready => ?_⟩
  · rw [List.flatMap_singleton]
    rcases c.asks_eq name with hnone | ⟨o, ho⟩
    · exact Or.inl ⟨hnone, by rw [hnone]; rfl⟩
    · refine Or.inr ⟨o, ho, ?_⟩
      rw [ho]
      exact Managed.perform_moves name o m
  · exact Managed.status_run name _ m
  · exact fun reason hfailed => Managed.run_of_failed name _ hfailed
  · unfold init
    rw [managed_of_get? h]
    dsimp only
    rw [hready]

/-- A demonstration provider is registered, declines a context without input, and is then
initialized. -/
def demoCommands : List (Command Demo) :=
  [.register "demo" (Demo.new false),
    .perform "demo" (.init ⟨Demo.runner.global, [("acme", .empty)]⟩),
    .initAll ⟨Demo.runner.global, []⟩]

/-- What it is asked meanwhile. -/
def demoTenure : List Answered :=
  [⟨.initSchema, .ok Demo.initSchema⟩, ⟨.initSchema, .ok Demo.initSchema⟩,
    ⟨.init ⟨Demo.runner.global, []⟩, .ok ⟨true⟩⟩]

/-- The one that was declined does not count as a tenure of its own. -/
theorem run_tenure_demo :
    Dict.get? "demo" (after demoCommands)
        = some ⟨⟨Demo.new false, demoTenure⟩, .ready ⟨true⟩, []⟩
      ∧ Managed.Tenure (.ready ⟨true⟩) demoTenure
      ∧ demoTenure.countP (fun a => a.call.kind = .init) ≤ 1 := by
  have hentry : Dict.get? "demo" (after demoCommands)
      = some ⟨⟨Demo.new false, demoTenure⟩, .ready ⟨true⟩, []⟩ := rfl
  obtain ⟨htenure, hcount, -⟩ := run_tenure demoCommands hentry
  exact ⟨hentry, htenure, hcount⟩

end Roster

end ProviderLink
