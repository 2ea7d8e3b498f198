/-
The configuration of each context is held against a schema at three
places: when the configuration of a runner is checked, before a provider
is initialized, and by the demonstration provider as it is initialized.
All three go through the contexts in order and stop at the first that
does not decode. The first of them says most (`checkUserConfig`), and the
other two are it, less the context (`checkContexts_eq`).

A map of contexts is in the order of their ids, so what stops the check
is a mismatch of the smallest id that has one, and it is told by that
alone (`checkUserConfig_eq_error`).
-/
import ProviderLink.Proofs.Codec
import ProviderLink.Proofs.Outcome
import ProviderLink.Provider.Demo
import ProviderLink.Runner.Connect
import ProviderLink.Runner.Roster

namespace ProviderLink

variable {schema : ObjectSchema} {contexts : List (String × Bytes)}

/-- Whether the configuration of every context decodes against a schema. -/
def RunnerData.Decodes (runner : RunnerData) (schema : ObjectSchema) : Prop :=
  ∀ c ∈ runner.userConfig, ∃ v, Codec.decodeInput c.2 schema = .ok v

/-- A context whose configuration does not fit a schema, and why; those of all smaller ids do. -/
structure FirstMismatch (schema : ObjectSchema) (contexts : Dict String Bytes)
    (fault : ContextFault) : Prop where
  fails : ∃ bytes, Dict.get? fault.contextId contexts = some bytes ∧
    Codec.decodeInput bytes schema = .error fault.cause
  mismatch : ∃ detail, fault.cause = .schemaMismatch detail
  first : ∀ c ∈ contexts, c.1 < fault.contextId → ∃ v, Codec.decodeInput c.2 schema = .ok v

/-- There is one first mismatch at most. -/
theorem FirstMismatch.unique {fault fault' : ContextFault}
    (h : FirstMismatch schema contexts fault) (h' : FirstMismatch schema contexts fault') :
    fault = fault' := by
  obtain ⟨⟨bytes, hget, hfails⟩, -, hfirst⟩ := h
  obtain ⟨⟨bytes', hget', hfails'⟩, -, hfirst'⟩ := h'
  -- the one that comes later asks the earlier one to decode
  have hnot : ¬fault.contextId < fault'.contextId := fun hlt => by
    obtain ⟨v, hv⟩ := hfirst' _ (Dict.mem_of_get? hget) hlt
    cases hfails.symm.trans hv
  have hnot' : ¬fault'.contextId < fault.contextId := fun hlt => by
    obtain ⟨v, hv⟩ := hfirst _ (Dict.mem_of_get? hget') hlt
    cases hfails'.symm.trans hv
  have hid : fault.contextId = fault'.contextId := String.le_antisymm hnot' hnot
  rw [hid, hget'] at hget
  cases hget
  have hcause : fault.cause = fault'.cause := Except.error.inj (hfails.symm.trans hfails')
  cases fault
  cases fault'
  cases hid
  cases hcause
  rfl

namespace RunnerConfig

theorem checkUserConfig_cons (schema : ObjectSchema) (c : String × Bytes)
    (rest : List (String × Bytes)) :
    checkUserConfig schema (c :: rest)
      = ((Codec.decodeInput c.2 schema).mapError (ContextFault.mk c.1)
          >>= fun _ => checkUserConfig schema rest) := by
  rw [checkUserConfig]
  cases Codec.decodeInput c.2 schema with
  | ok v => rfl
  | error e => rfl

/-- The check passes if every context decodes. -/
theorem checkUserConfig_eq_ok :
    checkUserConfig schema contexts = .ok ()
      ↔ ∀ c ∈ contexts, ∃ v, Codec.decodeInput c.2 schema = .ok v := by
  induction contexts with
  | nil => exact ⟨fun _ _ hc => absurd hc List.not_mem_nil, fun _ => rfl⟩
  | cons c contexts ih =>
      rw [checkUserConfig_cons, List.forall_mem_cons, ← ih, bind_eq_ok, exists_and_right]
      simp only [mapError_eq_ok]

/-- It fails at the first context that does not. -/
theorem exists_of_checkUserConfig {fault : ContextFault}
    (h : checkUserConfig schema contexts = .error fault) :
    ∃ before bytes rest, contexts = before ++ (fault.contextId, bytes) :: rest
      ∧ (∀ b ∈ before, ∃ v, Codec.decodeInput b.2 schema = .ok v)
      ∧ Codec.decodeInput bytes schema = .error fault.cause := by
  induction contexts with
  | nil => cases h
  | cons c contexts ih =>
      rw [checkUserConfig_cons] at h
      rcases bind_eq_error.1 h with hc | ⟨v, hc, h⟩
      · obtain ⟨cause, hcause, rfl⟩ := mapError_eq_error.1 hc
        exact ⟨[], c.2, contexts, rfl, fun _ hb => absurd hb List.not_mem_nil, hcause⟩
      · obtain ⟨before, bytes, rest, rfl, hbefore, hbytes⟩ := ih h
        refine ⟨c :: before, bytes, rest, rfl, ?_, hbytes⟩
        exact List.forall_mem_cons.2 ⟨⟨v, mapError_eq_ok.1 hc⟩, hbefore⟩

/-- Of contexts in the order of their ids, the check reports the first mismatch. -/
theorem checkUserConfig_eq_error (hsorted : Dict.Sorted contexts) {fault : ContextFault} :
    checkUserConfig schema contexts = .error fault ↔ FirstMismatch schema contexts fault := by
  have hfirst : ∀ {fault}, checkUserConfig schema contexts = .error fault →
      FirstMismatch schema contexts fault := by
    intro fault h
    obtain ⟨before, bytes, rest, rfl, hbefore, hbytes⟩ := exists_of_checkUserConfig h
    obtain ⟨-, hrest, -⟩ := List.pairwise_append.1 hsorted
    have hmem : (fault.contextId, bytes) ∈ before ++ (fault.contextId, bytes) :: rest :=
      List.mem_append_right _ (List.mem_cons_self ..)
    refine ⟨⟨bytes, Dict.get?_of_sorted hsorted hmem, hbytes⟩,
      Codec.exists_mismatch_of_decodeInput hbytes, fun c hc hlt => ?_⟩
    rcases List.mem_append.1 hc with hc | hc
    · exact hbefore c hc
    · rcases List.mem_cons.1 hc with rfl | hc
      · exact absurd hlt (String.lt_irrefl _)
      · exact absurd (String.lt_trans hlt ((List.pairwise_cons.1 hrest).1 c hc))
          (String.lt_irrefl _)
  refine ⟨hfirst, fun h => ?_⟩
  cases hcheck : checkUserConfig schema contexts with
  | error fault' => rw [(hfirst hcheck).unique h]
  | ok =>
      obtain ⟨bytes, hget, hfails⟩ := h.fails
      obtain ⟨v, hv⟩ := checkUserConfig_eq_ok.1 hcheck _ (Dict.mem_of_get? hget)
      cases hfails.symm.trans hv

end RunnerConfig

-- ======================================================== the others

namespace Roster

/-- Before a provider is initialized, the check says no more than why. -/
theorem checkContexts_eq (schema : ObjectSchema) (contexts : List (String × Bytes)) :
    checkContexts schema contexts
      = (RunnerConfig.checkUserConfig schema contexts).mapError ContextFault.cause := by
  induction contexts with
  | nil => rfl
  | cons c contexts ih =>
      rw [RunnerConfig.checkUserConfig_cons, checkContexts, ih]
      cases Codec.decodeInput c.2 schema with
      | ok v => rfl
      | error e => rfl

/-- The check passes if every context decodes. -/
theorem checkContexts_eq_ok :
    checkContexts schema contexts = .ok ()
      ↔ ∀ c ∈ contexts, ∃ v, Codec.decodeInput c.2 schema = .ok v := by
  rw [checkContexts_eq, mapError_eq_ok, RunnerConfig.checkUserConfig_eq_ok]

/-- It fails with the failure of the first context that does not. -/
theorem exists_of_checkContexts {e : ProviderError} (h : checkContexts schema contexts = .error e) :
    ∃ before c rest, contexts = before ++ c :: rest
      ∧ (∀ b ∈ before, ∃ v, Codec.decodeInput b.2 schema = .ok v)
      ∧ Codec.decodeInput c.2 schema = .error e := by
  rw [checkContexts_eq] at h
  obtain ⟨fault, hfault, rfl⟩ := mapError_eq_error.1 h
  obtain ⟨before, bytes, rest, hcontexts, hbefore, hbytes⟩ :=
    RunnerConfig.exists_of_checkUserConfig hfault
  exact ⟨before, _, rest, hcontexts, hbefore, hbytes⟩

end Roster

namespace Demo

/-- The demonstration provider checks as its runner does. -/
theorem checkContexts_eq (contexts : List (String × Bytes)) :
    checkContexts contexts = Roster.checkContexts initSchema contexts := by
  induction contexts with
  | nil => rfl
  | cons c contexts ih =>
      rw [checkContexts, Roster.checkContexts, ih]

end Demo

end ProviderLink
