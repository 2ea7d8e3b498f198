/-
Entries that a runner cannot tell apart. Two entries simulate each other
if every operation gives the same back and leaves them simulating each
other (`Simulates`); then so does every run (`run_of_simulates`), and as
the last state of a subscription is itself what an operation gives back,
what is remembered is the same on both sides.

There are two ways to come by a simulation. A provider may be wrapped
into something that forwards every call and keeps what else it likes, a
choice between providers or a transcript (`Forwards`): the wrapped entry
is the entry with its provider wrapped, before and after
(`perform_map`). Or a client may stand for it, as long as its answers fit
into their lines (`simulates_mirrors`).
-/
import ProviderLink.Proofs.Runner.Remote

namespace ProviderLink

open Rpc

namespace Managed

variable {π ρ : Type}

-- ========================================================== simulations

section Simulates

variable [Provider π] [Provider ρ] {name : String}

/-- Operations give the same back on both sides, and leave both in the relation. -/
structure Simulates (name : String) (R : Managed π → Managed ρ → Prop) : Prop where
  output : ∀ {m d}, R m d → ∀ o : Operation, o.Ordered →
    (m.perform name o).1 = (d.perform name o).1
  after : ∀ {m d}, R m d → ∀ o : Operation, o.Ordered →
    R (m.perform name o).2 (d.perform name o).2

theorem run_of_simulates {R : Managed π → Managed ρ → Prop} (h : Simulates name R)
    (ops : List Operation) : ∀ {m : Managed π} {d : Managed ρ}, R m d →
      (∀ o ∈ ops, o.Ordered) → R (m.run name ops).2 (d.run name ops).2 := by
  induction ops with
  | nil => exact fun hR _ => hR
  | cons o ops ih =>
      intro m d hR hordered
      obtain ⟨ho, hops⟩ := List.forall_mem_cons.1 hordered
      exact ih (h.after hR o ho) hops

/-- What is remembered is the same on both sides. -/
theorem lastState_of_simulates {R : Managed π → Managed ρ → Prop} (h : Simulates name R)
    {m : Managed π} {d : Managed ρ} (hR : R m d) (contextId id : String) :
    m.lastState contextId id = d.lastState contextId id :=
  Except.ok.inj (h.output hR (.lastState contextId id) trivial)

/-- So is the status. -/
theorem status_of_simulates {R : Managed π → Managed ρ → Prop} (h : Simulates name R)
    {m : Managed π} {d : Managed ρ} (hR : R m d) : m.status = d.status :=
  Except.ok.inj (h.output hR .status trivial)

theorem Simulates.comp {τ : Type} [Provider τ] {R : Managed π → Managed ρ → Prop}
    {S : Managed ρ → Managed τ → Prop} (hR : Simulates name R) (hS : Simulates name S) :
    Simulates name fun m d => ∃ k, R m k ∧ S k d where
  output := fun ⟨_, hmk, hkd⟩ o ho => (hR.output hmk o ho).trans (hS.output hkd o ho)
  after := fun ⟨_, hmk, hkd⟩ o ho => ⟨_, hR.after hmk o ho, hS.after hkd o ho⟩

end Simulates

-- ============================================================ forwarding

/-- The entry with its provider wrapped. -/
def map (φ : π → ρ) (m : Managed π) : Managed ρ := ⟨φ m.provider, m.status, m.lastStates⟩

/-- Wrapped, a provider answers as it does by itself. -/
def Forwards [Provider π] [Provider ρ] (φ : π → ρ) : Prop :=
  ∀ c p, Provider.call c (φ p) = ((Provider.call c p).1, φ (Provider.call c p).2)

theorem note_map (φ : π → ρ) (m : Managed π) (contextId id : String)
    (outcome : Outcome (Option Bytes)) :
    (m.map φ).note contextId id outcome = (m.note contextId id outcome).map φ := by
  unfold note
  split <;> rfl

variable [Provider π] [Provider ρ]

theorem forwards_transcript : Forwards (Transcript.provider (π := π)) := fun _ _ => rfl

theorem forwards_inl : Forwards (Sum.inl : π → π ⊕ ρ) := fun _ _ => rfl

theorem forwards_inr : Forwards (Sum.inr : ρ → π ⊕ ρ) := fun _ _ => rfl

theorem Forwards.comp {τ : Type} [Provider τ] {φ : π → ρ} {ψ : ρ → τ} (hψ : Forwards ψ)
    (hφ : Forwards φ) : Forwards (ψ ∘ φ) := by
  intro c p
  change Provider.call c (ψ (φ p)) = _
  rw [hψ, hφ]
  rfl

variable {φ : π → ρ}

theorem call_map (hφ : Forwards φ) (c : Call) (m : Managed π) :
    (m.map φ).call c = ((m.call c).1, (m.call c).2.map φ) := by
  rw [call_eq, call_eq, map, hφ]
  rfl

theorem askNoting_map (hφ : Forwards φ) (name : String) {c : Call}
    {note : Outcome c.Reply → Managed π → Managed π}
    {note' : Outcome c.Reply → Managed ρ → Managed ρ}
    (hnote : ∀ reply m, note' reply (m.map φ) = (note reply m).map φ) (m : Managed π) :
    (m.map φ).askNoting name c note'
      = ((m.askNoting name c note).1, (m.askNoting name c note).2.map φ) := by
  have hstatus : (m.map φ).status = m.status := rfl
  unfold askNoting
  rw [hstatus, call_map hφ]
  cases m.status with
  | registered => rfl
  | failed reason => rfl
  | ready config => exact Prod.ext rfl (hnote ..)

theorem initOnce_map (hφ : Forwards φ) (name : String) (runner : RunnerData) (m : Managed π) :
    (m.map φ).initOnce name runner
      = ((m.initOnce name runner).1, (m.initOnce name runner).2.map φ) := by
  have hstatus : (m.map φ).status = m.status := rfl
  unfold initOnce Roster.initManaged
  rw [hstatus, call_map hφ]
  cases m.status with
  | ready config => rfl
  | failed reason => rfl
  | registered =>
      dsimp only
      rw [call_map hφ]
      cases (m.call .initSchema).1.bind fun s => Roster.checkContexts s runner.userConfig with
      | error e => rfl
      | ok =>
          dsimp only
          cases ((m.call .initSchema).2.call (.init runner)).1 with
          | ok config => rfl
          | error e => rfl

/-- An operation on a wrapped provider is that operation on the provider. -/
theorem perform_map (hφ : Forwards φ) (name : String) (o : Operation) (m : Managed π) :
    (m.map φ).perform name o = ((m.perform name o).1, (m.perform name o).2.map φ) := by
  cases o with
  | init runner => exact initOnce_map hφ name runner m
  | status | lastState => rfl
  | evaluateAction | mapPayloadToTriggerKey | createSubscription | introspect =>
      simp only [perform]
      refine askNoting_map hφ name ?_ m
      exact fun _ _ => rfl
  | readSubscription | updateSubscription | deleteSubscription =>
      simp only [perform]
      refine askNoting_map hφ name ?_ m
      exact fun _ m => note_map φ m ..

/-- An entry that comes down to the same as another, wrapped, simulates it. -/
theorem simulates_map {τ : Type} [Provider τ] {ψ : τ → ρ} (hψ : Forwards ψ) (hφ : Forwards φ)
    (name : String) : Simulates name fun (m : Managed τ) (d : Managed π) => m.map ψ = d.map φ where
  output {m d} h o _ := by
    have hm := perform_map hψ name o m
    rw [h, perform_map hφ] at hm
    exact (congrArg Prod.fst hm).symm
  after {m d} h o _ := by
    have hm := perform_map hψ name o m
    rw [h, perform_map hφ] at hm
    exact (congrArg Prod.snd hm).symm

end Managed

-- ============================================================== clients

namespace Managed

variable {π : Type} [Provider π]

/-- A client simulates the provider it stands for, if all that this ever answers fits. -/
theorem simulates_mirrors (h : ∀ (c : Call) (p : π), Answered.Fits ⟨c, (Provider.call c p).1⟩)
    (name : String) : Simulates name (Mirrors (π := π)) where
  output hR _ ho := (perform_mirrors_of_fits name ho hR fun c _ => h c _).1
  after hR _ ho := (perform_mirrors_of_fits name ho hR fun c _ => h c _).2

end Managed

end ProviderLink
