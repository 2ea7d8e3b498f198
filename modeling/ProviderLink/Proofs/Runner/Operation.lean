/-
The operations of a runner on one of its providers, as data, so that a
run of them is a list. An operation reads and writes the entry of its
name and no other (`perform_at`), so what holds of one entry under
`Managed.run` holds of it in any roster (`run_at`).

What an entry's provider has been asked is kept in its transcript, which
operations only ever extend (`log_prefix_run`).
-/
import ProviderLink.Proofs.Dict
import ProviderLink.Proofs.Provider.Run
import ProviderLink.Runner.Roster

namespace ProviderLink

/-- What a runner does with a provider. -/
inductive Operation
  | init (runner : RunnerData)
  | status
  | lastState (contextId id : String)
  | evaluateAction (contextId action : String) (input : Bytes)
  | mapPayloadToTriggerKey (payload : Bytes)
  | createSubscription (contextId : String) (input : Bytes)
  | readSubscription (contextId id : String)
  | updateSubscription (contextId id : String) (input : Bytes)
  | deleteSubscription (contextId id : String)
  /-- Borrows a provider that is ready and asks it something; a provider is not lent to be
  initialized. -/
  | introspect (c : Call) (h : c.kind ≠ .init)

namespace Operation

/-- What an operation gives back. -/
abbrev Output : Operation → Type
  | init _ => Result ProviderConfig
  | status => Result Status
  | lastState _ _ => Result (Option Bytes)
  | mapPayloadToTriggerKey _ => Result String
  | evaluateAction _ _ _ | createSubscription _ _ | readSubscription _ _
  | updateSubscription _ _ _ => Result Bytes
  | deleteSubscription _ _ => Result Unit
  | introspect c _ => Result c.Reply

/-- What an operation that comes to nothing gives back. -/
def refused (e : RosterError) : (o : Operation) → o.Output
  | init _ | status | lastState _ _ | evaluateAction _ _ _ | mapPayloadToTriggerKey _
  | createSubscription _ _ | readSubscription _ _ | updateSubscription _ _ _
  | deleteSubscription _ _ | introspect _ _ => .error e

/-- Whether the tables an operation hands over are in key order. -/
def Ordered : Operation → Prop
  | init runner => Dict.Sorted runner.userConfig
  | _ => True

end Operation

/-- An operation and what it gave back. -/
structure Performed where
  operation : Operation
  output : operation.Output

namespace Roster

variable {π : Type} [Provider π]

/-- An operation on the provider of a name. -/
def perform (name : String) : (o : Operation) → Roster π → o.Output × Roster π
  | .init runner, r => r.init name runner
  | .status, r => (r.status name, r)
  | .lastState contextId id, r => (r.lastState name contextId id, r)
  | .evaluateAction contextId action input, r => r.evaluateAction name contextId action input
  | .mapPayloadToTriggerKey payload, r => r.mapPayloadToTriggerKey name payload
  | .createSubscription contextId input, r => r.createSubscription name contextId input
  | .readSubscription contextId id, r => r.readSubscription name contextId id
  | .updateSubscription contextId id input, r => r.updateSubscription name contextId id input
  | .deleteSubscription contextId id, r => r.deleteSubscription name contextId id
  | .introspect c _, r => r.call name c

/-- What one operation after the other gives back, and the roster afterwards. -/
def run (name : String) : List Operation → Roster π → List Performed × Roster π
  | [], r => ([], r)
  | o :: rest, r =>
    let (output, r) := r.perform name o
    let (outputs, r) := run name rest r
    (⟨o, output⟩ :: outputs, r)

theorem run_cons (name : String) (o : Operation) (rest : List Operation) (r : Roster π) :
    r.run name (o :: rest)
      = (⟨o, (r.perform name o).1⟩ :: ((r.perform name o).2.run name rest).1,
          ((r.perform name o).2.run name rest).2) := rfl

end Roster

-- ========================================================= one entry

namespace Managed

variable {π : Type} [Provider π]

theorem call_eq (c : Call) (m : Managed π) :
    m.call c = ((Provider.call c m.provider).1,
      { m with provider := (Provider.call c m.provider).2 }) := rfl

/-- Asks a provider that is ready and takes note of the outcome. -/
def askNoting (name : String) (c : Call) (note : Outcome c.Reply → Managed π → Managed π)
    (m : Managed π) : Result c.Reply × Managed π :=
  match m.status with
  | .ready _ => ((m.call c).1.mapError (.provider name), note (m.call c).1 (m.call c).2)
  | .registered => (.error (.notInitialized name), m)
  | .failed reason => (.error (.initFailed name reason), m)

/-- Initializes a provider unless that was tried before. -/
def initOnce (name : String) (runner : RunnerData) (m : Managed π) :
    Result ProviderConfig × Managed π :=
  match m.status with
  | .ready config => (.ok config, m)
  | .failed reason => (.error (.initFailed name reason), m)
  | .registered => Roster.initManaged name runner m

/-- An operation on a provider of a runner. -/
def perform (name : String) : (o : Operation) → Managed π → o.Output × Managed π
  | .init runner, m => m.initOnce name runner
  | .status, m => (.ok m.status, m)
  | .lastState contextId id, m => (.ok (m.lastState contextId id), m)
  | .evaluateAction contextId action input, m =>
    m.askNoting name (.actionEvaluate contextId action input) fun _ m => m
  | .mapPayloadToTriggerKey payload, m =>
    m.askNoting name (.mapPayloadToTriggerKey payload) fun _ m => m
  | .createSubscription contextId input, m =>
    m.askNoting name (.createSubscription contextId input) fun _ m => m
  | .readSubscription contextId id, m =>
    m.askNoting name (.readSubscription contextId id) fun reply m =>
      m.note contextId id (reply.map some)
  | .updateSubscription contextId id input, m =>
    m.askNoting name (.updateSubscription contextId id input) fun reply m =>
      m.note contextId id (reply.map some)
  | .deleteSubscription contextId id, m =>
    m.askNoting name (.deleteSubscription contextId id) fun reply m =>
      m.note contextId id (reply.map fun _ => none)
  | .introspect c _, m => m.askNoting name c fun _ m => m

/-- What one operation after the other gives back, and the provider afterwards. -/
def run (name : String) : List Operation → Managed π → List Performed × Managed π
  | [], m => ([], m)
  | o :: rest, m =>
    let (output, m) := m.perform name o
    let (outputs, m) := run name rest m
    (⟨o, output⟩ :: outputs, m)

theorem run_cons (name : String) (o : Operation) (rest : List Operation) (m : Managed π) :
    m.run name (o :: rest)
      = (⟨o, (m.perform name o).1⟩ :: ((m.perform name o).2.run name rest).1,
          ((m.perform name o).2.run name rest).2) := rfl

end Managed

namespace Roster

variable {π : Type} {name : String}

/-- What happens in a roster is what happens to the entry of a name. -/
structure At (name : String) {α : Type} (whole : α × Roster π) (entry : α × Managed π) : Prop where
  result : whole.1 = entry.1
  entry : Dict.get? name whole.2 = some entry.2

/-- What is registered is put under a name that was free. -/
theorem eq_insert_of_register {r r' : Roster π} {p : π}
    (h : r.register name p = .ok r') :
    Dict.get? name r = none ∧ r' = Dict.insert name ⟨p, .registered, []⟩ r := by
  unfold register at h
  split at h
  · cases h
  · split at h
    · cases h
    · next hhas =>
      exact ⟨Option.not_isSome_iff_eq_none.1 hhas, (Except.ok.inj h).symm⟩

theorem managed_of_get? {r : Roster π} {m : Managed π} (h : Dict.get? name r = some m) :
    r.managed name = .ok m := by
  unfold managed
  rw [h]

theorem managed_of_none {r : Roster π} (h : Dict.get? name r = none) :
    r.managed name = .error (.unknownProvider name) := by
  unfold managed
  rw [h]

variable [Provider π] {r : Roster π} {m : Managed π}

/-- Nothing comes of an operation on a name that nobody registered. -/
theorem perform_of_none (h : Dict.get? name r = none) (o : Operation) :
    r.perform name o = (o.refused (.unknownProvider name), r) := by
  have hmanaged := managed_of_none h
  have hcall : ∀ (c : Call) (note : Outcome c.Reply → Managed π → Managed π),
      r.callNoting name c note = (.error (.unknownProvider name), r) := by
    intro c note
    simp only [callNoting, ready, hmanaged]
    rfl
  cases o with
  | init runner => simp only [perform, init, hmanaged, Operation.refused]
  | status | lastState =>
      simp only [perform, status, lastState, hmanaged, Operation.refused]
      rfl
  | evaluateAction | mapPayloadToTriggerKey | createSubscription | introspect =>
      exact hcall _ fun _ m => m
  | readSubscription contextId id =>
      exact hcall (.readSubscription contextId id) fun reply m =>
        m.note contextId id (reply.map some)
  | updateSubscription contextId id input =>
      exact hcall (.updateSubscription contextId id input) fun reply m =>
        m.note contextId id (reply.map some)
  | deleteSubscription contextId id =>
      exact hcall (.deleteSubscription contextId id) fun reply m =>
        m.note contextId id (reply.map fun _ => none)

/-- Calling the provider of a name is calling that of its entry. -/
theorem callNoting_at (h : Dict.get? name r = some m) (c : Call)
    (note : Outcome c.Reply → Managed π → Managed π) :
    At name (r.callNoting name c note) (m.askNoting name c note) := by
  unfold callNoting ready Managed.askNoting
  rw [managed_of_get? h]
  cases hstatus : m.status with
  | registered =>
      simp only [bind, Except.bind, hstatus]
      exact ⟨rfl, h⟩
  | failed reason =>
      simp only [bind, Except.bind, hstatus]
      exact ⟨rfl, h⟩
  | ready config =>
      simp only [bind, Except.bind, hstatus]
      exact ⟨rfl, Dict.get?_insert_self ..⟩

/-- So is initializing it. -/
theorem init_at (h : Dict.get? name r = some m) (runner : RunnerData) :
    At name (r.init name runner) (m.initOnce name runner) := by
  unfold init Managed.initOnce
  rw [managed_of_get? h]
  cases hstatus : m.status with
  | registered =>
      simp only [hstatus]
      exact ⟨rfl, Dict.get?_insert_self ..⟩
  | failed reason =>
      simp only [hstatus]
      exact ⟨rfl, h⟩
  | ready config =>
      simp only [hstatus]
      exact ⟨rfl, h⟩

/-- Every operation on a name is one on its entry. -/
theorem perform_at (h : Dict.get? name r = some m) (o : Operation) :
    At name (r.perform name o) (m.perform name o) := by
  have hmanaged := managed_of_get? h
  cases o with
  | init runner => exact init_at h runner
  | status => exact ⟨congrArg (Except.map Managed.status) hmanaged, h⟩
  | lastState contextId id => exact ⟨congrArg (Except.map _) hmanaged, h⟩
  | evaluateAction contextId action input =>
      exact callNoting_at h (.actionEvaluate contextId action input) fun _ m => m
  | mapPayloadToTriggerKey payload =>
      exact callNoting_at h (.mapPayloadToTriggerKey payload) fun _ m => m
  | createSubscription contextId input =>
      exact callNoting_at h (.createSubscription contextId input) fun _ m => m
  | readSubscription contextId id =>
      exact callNoting_at h (.readSubscription contextId id) fun reply m =>
        m.note contextId id (reply.map some)
  | updateSubscription contextId id input =>
      exact callNoting_at h (.updateSubscription contextId id input) fun reply m =>
        m.note contextId id (reply.map some)
  | deleteSubscription contextId id =>
      exact callNoting_at h (.deleteSubscription contextId id) fun reply m =>
        m.note contextId id (reply.map fun _ => none)
  | introspect c => exact callNoting_at h c fun _ m => m

theorem status_at (h : Dict.get? name r = some m) : r.status name = .ok m.status :=
  (perform_at h .status).result

theorem lastState_at (h : Dict.get? name r = some m) (contextId id : String) :
    r.lastState name contextId id = .ok (m.lastState contextId id) :=
  (perform_at h (.lastState contextId id)).result

theorem readSubscription_at (h : Dict.get? name r = some m) (contextId id : String) :
    (r.readSubscription name contextId id).1
      = (m.perform name (.readSubscription contextId id)).1 :=
  (perform_at h (.readSubscription contextId id)).result

theorem deleteSubscription_at (h : Dict.get? name r = some m) (contextId id : String) :
    (r.deleteSubscription name contextId id).1
      = (m.perform name (.deleteSubscription contextId id)).1 :=
  (perform_at h (.deleteSubscription contextId id)).result

/-- Every run of operations on a name is one on its entry. -/
theorem run_at (ops : List Operation) : ∀ {r : Roster π} {m : Managed π},
    Dict.get? name r = some m → At name (r.run name ops) (m.run name ops) := by
  induction ops with
  | nil => exact fun h => ⟨rfl, h⟩
  | cons o ops ih =>
      intro r m h
      obtain ⟨houtput, hentry⟩ := perform_at h o
      obtain ⟨houtputs, hafter⟩ := ih hentry
      rw [run_cons, Managed.run_cons, houtput, houtputs]
      exact ⟨rfl, hafter⟩

end Roster

-- ================================================== providers and logs

namespace Managed

variable {π : Type}

/-- Taking note of an outcome is no matter for the provider. -/
theorem provider_note (m : Managed π) (contextId id : String)
    (outcome : Outcome (Option Bytes)) : (m.note contextId id outcome).provider = m.provider := by
  unfold note
  split <;> rfl

/-- Nor for the status. -/
theorem status_note (m : Managed π) (contextId id : String)
    (outcome : Outcome (Option Bytes)) : (m.note contextId id outcome).status = m.status := by
  unfold note
  split <;> rfl

variable [Provider π]

/-- What every call keeps, every operation keeps. -/
theorem provider_perform {P : π → Prop} (hP : ∀ c p, P p → P (Provider.call c p).2) {m : Managed π}
    (h : P m.provider) (name : String) (o : Operation) : P (m.perform name o).2.provider := by
  have hask : ∀ {c : Call} {note : Outcome c.Reply → Managed π → Managed π},
      (∀ reply m, (note reply m).provider = m.provider) →
      P (m.askNoting name c note).2.provider := by
    intro c note hnote
    unfold askNoting
    split
    · rw [hnote]
      exact hP c _ h
    · exact h
    · exact h
  cases o with
  | init runner =>
      rw [perform]
      unfold initOnce
      split
      · exact h
      · exact h
      · unfold Roster.initManaged
        dsimp only
        split
        · exact hP _ _ h
        · split
          · exact hP _ _ (hP _ _ h)
          · exact hP _ _ (hP _ _ h)
  | status | lastState => exact h
  | evaluateAction | mapPayloadToTriggerKey | createSubscription | introspect =>
      refine hask ?_
      exact fun _ _ => rfl
  | readSubscription | updateSubscription | deleteSubscription =>
      refine hask ?_
      exact fun _ _ => provider_note ..

theorem provider_run {P : π → Prop} (hP : ∀ c p, P p → P (Provider.call c p).2) (name : String)
    (ops : List Operation) : ∀ {m : Managed π}, P m.provider → P (m.run name ops).2.provider := by
  induction ops with
  | nil => exact fun h => h
  | cons o ops ih => exact fun h => ih (provider_perform hP h name o)

/-- Only initializing is a matter for the status. -/
theorem status_perform (name : String) {o : Operation} (ho : ∀ runner, o ≠ .init runner)
    (m : Managed π) : (m.perform name o).2.status = m.status := by
  have hask : ∀ {c : Call} {note : Outcome c.Reply → Managed π → Managed π},
      (∀ reply m, (note reply m).status = m.status) →
      (m.askNoting name c note).2.status = m.status := by
    intro c note hnote
    unfold askNoting
    split
    · exact hnote ..
    · rfl
    · rfl
  cases o with
  | init runner => exact absurd rfl (ho runner)
  | status | lastState => rfl
  | evaluateAction | mapPayloadToTriggerKey | createSubscription | introspect =>
      refine hask ?_
      exact fun _ _ => rfl
  | readSubscription | updateSubscription | deleteSubscription =>
      refine hask ?_
      exact fun _ _ => status_note ..

/-- Whatever a provider is asked is logged. -/
theorem log_call (c : Call) (m : Managed (Transcript π)) :
    (m.call c).2.provider.log = m.provider.log ++ [⟨c, (m.call c).1⟩] := rfl

/-- The answer of a provider that is ready is logged. -/
theorem log_askNoting (name : String) {c : Call}
    {note : Outcome c.Reply → Managed (Transcript π) → Managed (Transcript π)}
    (hnote : ∀ reply m, (note reply m).provider = m.provider) {m : Managed (Transcript π)}
    {config : ProviderConfig} (h : m.status = .ready config) :
    (m.askNoting name c note).2.provider.log = m.provider.log ++ [⟨c, (m.call c).1⟩] := by
  unfold askNoting
  rw [h]
  dsimp only
  rw [hnote]
  exact log_call c m

/-- A provider that is asked something loses nothing of its log. -/
theorem log_prefix_askNoting (name : String) {c : Call}
    {note : Outcome c.Reply → Managed (Transcript π) → Managed (Transcript π)}
    (hnote : ∀ reply m, (note reply m).provider = m.provider) (m : Managed (Transcript π)) :
    m.provider.log <+: (m.askNoting name c note).2.provider.log := by
  unfold askNoting
  split
  · rw [hnote]
    exact List.prefix_append ..
  · exact List.prefix_rfl
  · exact List.prefix_rfl

/-- The schema that a provider gives before `init` is logged first. -/
theorem log_prefix_initManaged (name : String) (runner : RunnerData)
    (m : Managed (Transcript π)) :
    m.provider.log ++ [⟨.initSchema, (m.call .initSchema).1⟩]
      <+: (Roster.initManaged name runner m).2.provider.log := by
  unfold Roster.initManaged
  dsimp only
  split
  · exact List.prefix_rfl
  · split
    · exact List.prefix_append ..
    · exact List.prefix_append ..

/-- A provider that is initialized loses nothing of its log. -/
theorem log_prefix_initOnce (name : String) (runner : RunnerData) (m : Managed (Transcript π)) :
    m.provider.log <+: (m.initOnce name runner).2.provider.log := by
  unfold initOnce
  split
  · exact List.prefix_rfl
  · exact List.prefix_rfl
  · exact (List.prefix_append ..).trans (log_prefix_initManaged name runner m)

/-- No operation takes anything out of the log. -/
theorem log_prefix_perform (name : String) (o : Operation) (m : Managed (Transcript π)) :
    m.provider.log <+: (m.perform name o).2.provider.log := by
  cases o with
  | init runner => exact log_prefix_initOnce ..
  | status | lastState => exact List.prefix_rfl
  | evaluateAction | mapPayloadToTriggerKey | createSubscription | introspect =>
      exact log_prefix_askNoting name (fun _ _ => rfl) m
  | readSubscription | updateSubscription | deleteSubscription =>
      exact log_prefix_askNoting name (fun _ m => provider_note m _ _ _) m

/-- Nor does a run of them. -/
theorem log_prefix_run (name : String) (ops : List Operation) : ∀ m : Managed (Transcript π),
    m.provider.log <+: (m.run name ops).2.provider.log := by
  induction ops with
  | nil => exact fun _ => List.prefix_rfl
  | cons o ops ih => exact fun m => (log_prefix_perform name o m).trans (ih _)

end Managed

end ProviderLink
