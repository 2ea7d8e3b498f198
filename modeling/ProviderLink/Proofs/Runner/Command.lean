/-
All that a runner does with its roster, as data: providers are
registered, one of them is operated on, or all are initialized. A
command comes down, for each entry, to the operations that it asks of
the entry (`Command.asks`), and leaves it alone if it asks none; so a
run of commands is, to each entry, a run of operations (`executeAll_at`),
and what holds of one entry holds in a roster of any size.

An operation changes the entry of its name at most and adds none
(`Touches`). Initializing all goes through the names of the roster, each
of which stands there once because a roster is in the order of its names
(`sorted_execute`); so every entry is initialized once, and not by the
turns of the others (`initEach_at`).

The providers of these rosters keep transcripts, which are empty when
they are registered.
-/
import ProviderLink.Proofs.Runner.Operation

namespace ProviderLink

/-- What a runner does with its roster. -/
inductive Command (π : Type)
  /-- Registers a provider that nobody called yet. -/
  | register (name : String) (provider : π)
  | initAll (runner : RunnerData)
  | perform (name : String) (o : Operation)

namespace Command

variable {π : Type}

/-- What a command gives back. -/
abbrev Output : Command π → Type
  | register _ _ => Except RosterFault Unit
  | initAll _ => List (String × Result ProviderConfig)
  | perform _ o => o.Output

/-- The operations that a command asks of the entry of a name, one at most. -/
def asks (name : String) : Command π → List Operation
  | register _ _ => []
  | initAll runner => [.init runner]
  | perform name' o => if name' = name then [o] else []

theorem asks_eq (name : String) (c : Command π) :
    c.asks name = [] ∨ ∃ o, c.asks name = [o] := by
  cases c with
  | register => exact Or.inl rfl
  | initAll runner => exact Or.inr ⟨.init runner, rfl⟩
  | perform name' o =>
      rw [asks]
      split
      · exact Or.inr ⟨o, rfl⟩
      · exact Or.inl rfl

end Command

/-- A command and what it gave back. -/
structure Executed (π : Type) where
  command : Command π
  output : command.Output

/-- A provider as it is registered. -/
def Managed.fresh {π : Type} (provider : π) : Managed (Transcript π) :=
  ⟨⟨provider, []⟩, .registered, []⟩

namespace Managed

variable {π : Type} [Provider π]

theorem run_append (name : String) (before rest : List Operation) : ∀ m : Managed π,
    (m.run name (before ++ rest)).2 = ((m.run name before).2.run name rest).2 := by
  induction before with
  | nil => exact fun _ => rfl
  | cons o before ih => exact fun m => ih (m.perform name o).2

end Managed

namespace Roster

section Touches

variable {π : Type} {name name' : String} {r r' : Roster π}

/-- A roster that differs from another in one entry at most, which is in both. -/
inductive Touches (name : String) (r : Roster π) : Roster π → Prop
  | same : Touches name r r
  | entry (m m' : Managed π) (h : Dict.get? name r = some m) :
    Touches name r (Dict.insert name m' r)

theorem Touches.get?_of_ne (h : Touches name' r r') (hne : name ≠ name') :
    Dict.get? name r' = Dict.get? name r := by
  cases h with
  | same => rfl
  | entry m m' h => exact Dict.get?_insert_of_ne hne ..

theorem Touches.get?_of_none (h : Touches name' r r') (hnone : Dict.get? name r = none) :
    Dict.get? name r' = none := by
  cases h with
  | same => exact hnone
  | entry m m' h =>
      have hne : name ≠ name' := by
        rintro rfl
        rw [hnone] at h
        cases h
      rw [Dict.get?_insert_of_ne hne]
      exact hnone

theorem Touches.sorted (h : Touches name r r') (hsorted : Dict.Sorted r) : Dict.Sorted r' := by
  cases h with
  | same => exact hsorted
  | entry m m' h => exact Dict.sorted_insert name m' hsorted

theorem get?_of_managed {m : Managed π} (h : r.managed name = .ok m) :
    Dict.get? name r = some m := by
  unfold managed at h
  split at h
  · next m' hm => exact hm.trans (congrArg some (Except.ok.inj h))
  · cases h

variable [Provider π]

theorem touches_callNoting (r : Roster π) (name : String) (c : Call)
    (note : Outcome c.Reply → Managed π → Managed π) :
    Touches name r (r.callNoting name c note).2 := by
  unfold callNoting
  cases hready : r.ready name with
  | error e => exact .same
  | ok m =>
      have hentry : ∃ m, r.managed name = .ok m := by
        cases hm : r.managed name with
        | ok m => exact ⟨m, rfl⟩
        | error e =>
            rw [ready, hm] at hready
            cases hready
      obtain ⟨m', hm'⟩ := hentry
      exact .entry m' _ (get?_of_managed hm')

theorem touches_init (r : Roster π) (name : String) (runner : RunnerData) :
    Touches name r (r.init name runner).2 := by
  unfold init
  cases hm : r.managed name with
  | error e => exact .same
  | ok m =>
      dsimp only
      split
      · exact .same
      · exact .same
      · exact .entry m _ (get?_of_managed hm)

/-- An operation touches the entry of its name alone. -/
theorem touches_perform (r : Roster π) (name : String) (o : Operation) :
    Touches name r (r.perform name o).2 := by
  cases o with
  | init runner => exact touches_init ..
  | status | lastState => exact .same
  | evaluateAction | mapPayloadToTriggerKey | createSubscription | introspect
  | readSubscription | updateSubscription | deleteSubscription => exact touches_callNoting ..

-- ================================================================== all

/-- Going through some names in order keeps the names of a roster. -/
theorem sorted_initEach (runner : RunnerData) (names : List String) : ∀ {r : Roster π},
    Dict.Sorted r → Dict.Sorted (initEach runner names r).2 := by
  induction names with
  | nil => exact fun h => h
  | cons name names ih => exact fun h => ih ((touches_init _ name runner).sorted h)

theorem get?_initEach_of_none (runner : RunnerData) (names : List String) :
    ∀ {r : Roster π}, Dict.get? name r = none →
      Dict.get? name (initEach runner names r).2 = none := by
  induction names with
  | nil => exact fun h => h
  | cons name' names ih => exact fun h => ih ((touches_init _ name' runner).get?_of_none h)

theorem get?_initEach_of_not_mem (runner : RunnerData) {names : List String}
    (hname : name ∉ names) : ∀ {r : Roster π},
      Dict.get? name (initEach runner names r).2 = Dict.get? name r := by
  induction names with
  | nil => exact fun {_} => rfl
  | cons name' names ih =>
      intro r
      have hne : name ≠ name' := fun heq => hname (heq ▸ List.mem_cons_self ..)
      have hrest : name ∉ names := fun hmem => hname (List.mem_cons_of_mem _ hmem)
      exact (ih hrest).trans ((touches_init r name' runner).get?_of_ne hne)

/-- Going through names that are all different initializes each entry once. -/
theorem initEach_at (runner : RunnerData) {names : List String} (hnodup : names.Nodup)
    (hname : name ∈ names) : ∀ {r : Roster π} {m : Managed π}, Dict.get? name r = some m →
      Dict.get? name (initEach runner names r).2 = some (m.initOnce name runner).2 := by
  induction names with
  | nil => exact absurd hname List.not_mem_nil
  | cons name' names ih =>
      intro r m h
      obtain ⟨hfresh, hrest⟩ := List.nodup_cons.1 hnodup
      by_cases hne : name = name'
      · -- its own turn comes now, and not again
        subst hne
        exact (get?_initEach_of_not_mem runner hfresh).trans (init_at h runner).entry
      · have hmem : name ∈ names := (List.mem_cons.1 hname).resolve_left hne
        have hstill := (touches_init r name' runner).get?_of_ne hne
        exact ih hrest hmem (hstill.trans h)

end Touches

-- ============================================================ commands

variable {π : Type} [Provider π]

/-- Executes a command. -/
def execute : (c : Command π) → Roster (Transcript π) → c.Output × Roster (Transcript π)
  | .register name provider, r =>
    match r.register name ⟨provider, []⟩ with
    | .ok r' => (.ok (), r')
    | .error e => (.error e, r)
  | .initAll runner, r => r.initAll runner
  | .perform name o, r => r.perform name o

/-- What one command after the other gives back, and the roster afterwards. -/
def executeAll : List (Command π) → Roster (Transcript π) →
    List (Executed π) × Roster (Transcript π)
  | [], r => ([], r)
  | c :: rest, r =>
    let (output, r) := r.execute c
    let (outputs, r) := executeAll rest r
    (⟨c, output⟩ :: outputs, r)

/-- The roster after some commands to an empty one. -/
def after (commands : List (Command π)) : Roster (Transcript π) := (executeAll commands []).2

theorem executeAll_append (before rest : List (Command π)) : ∀ r : Roster (Transcript π),
    (executeAll (before ++ rest) r).2 = (executeAll rest (executeAll before r).2).2 := by
  induction before with
  | nil => exact fun _ => rfl
  | cons c before ih => exact fun r => ih (r.execute c).2

/-- A registration adds an entry where there was none, or nothing. -/
theorem execute_register (name : String) (provider : π) (r : Roster (Transcript π)) :
    (r.execute (.register name provider)).2 = r
      ∨ Dict.get? name r = none
        ∧ (r.execute (.register name provider)).2 = Dict.insert name (.fresh provider) r := by
  rw [execute]
  cases h : r.register name ⟨provider, []⟩ with
  | error e => exact Or.inl rfl
  | ok r' => exact Or.inr (eq_insert_of_register h)

variable {r : Roster (Transcript π)} {m : Managed (Transcript π)} {name : String}

/-- A command keeps the names in order. -/
theorem sorted_execute (hsorted : Dict.Sorted r) (c : Command π) :
    Dict.Sorted (r.execute c).2 := by
  cases c with
  | register name provider =>
      rcases execute_register name provider r with heq | ⟨-, heq⟩
      · rw [heq]
        exact hsorted
      · rw [heq]
        exact Dict.sorted_insert name _ hsorted
  | initAll runner => exact sorted_initEach runner _ hsorted
  | perform name o => exact (touches_perform r name o).sorted hsorted

theorem sorted_executeAll (commands : List (Command π)) : ∀ {r : Roster (Transcript π)},
    Dict.Sorted r → Dict.Sorted (executeAll commands r).2 := by
  induction commands with
  | nil => exact fun h => h
  | cons c commands ih => exact fun h => ih (sorted_execute h c)

/-- To an entry a command is what it asks of it. -/
theorem execute_at (hsorted : Dict.Sorted r) (h : Dict.get? name r = some m) (c : Command π) :
    Dict.get? name (r.execute c).2 = some (m.run name (c.asks name)).2 := by
  cases c with
  | register name' provider =>
      rcases execute_register name' provider r with heq | ⟨hnone, heq⟩
      · rw [heq]
        exact h
      · have hne : name ≠ name' := by
          rintro rfl
          rw [hnone] at h
          cases h
        rw [heq, Dict.get?_insert_of_ne hne]
        exact h
  | initAll runner =>
      exact initEach_at runner (Dict.nodup_keys hsorted)
        (List.mem_map_of_mem (Dict.mem_of_get? h)) h
  | perform name' o =>
      rw [Command.asks]
      split
      · next heq =>
        subst heq
        exact (perform_at h o).entry
      · next hne =>
        exact ((touches_perform r name' o).get?_of_ne fun heq => hne heq.symm).trans h

/-- So is a run of commands. -/
theorem executeAll_at (commands : List (Command π)) :
    ∀ {r : Roster (Transcript π)} {m : Managed (Transcript π)}, Dict.Sorted r →
      Dict.get? name r = some m →
        Dict.get? name (executeAll commands r).2
          = some (m.run name (commands.flatMap (Command.asks name))).2 := by
  induction commands with
  | nil => exact fun _ h => h
  | cons c commands ih =>
      intro r m hsorted h
      rw [List.flatMap_cons, Managed.run_append]
      exact ih (sorted_execute hsorted c) (execute_at hsorted h c)

/-- What becomes of a provider once it is registered. -/
theorem get?_after_register {before : List (Command π)} {p : π}
    (h : ((after before).execute (.register name p)).1 = .ok ()) (later : List (Command π)) :
    Dict.get? name (after (before ++ .register name p :: later))
      = some ((Managed.fresh p).run name (later.flatMap (Command.asks name))).2 := by
  have hsorted : Dict.Sorted (after before) := sorted_executeAll before List.Pairwise.nil
  have hentry : Dict.get? name ((after before).execute (.register name p)).2
      = some (.fresh p) := by
    rw [execute] at h ⊢
    cases hregister : (after before).register name ⟨p, []⟩ with
    | error e =>
        rw [hregister] at h
        cases h
    | ok r =>
        dsimp only
        rw [(eq_insert_of_register hregister).2]
        exact Dict.get?_insert_self ..
  rw [after, executeAll_append]
  exact executeAll_at later (sorted_execute hsorted (.register name p)) hentry

/-- An entry that a command adds is one of a provider just registered. -/
theorem fresh_of_execute (hnone : Dict.get? name r = none) {c : Command π}
    (h : Dict.get? name (r.execute c).2 = some m) : ∃ provider, m = .fresh provider := by
  cases c with
  | register name' provider =>
      rcases execute_register name' provider r with heq | ⟨-, heq⟩
      · rw [heq, hnone] at h
        cases h
      · by_cases hne : name = name'
        · subst hne
          rw [heq, Dict.get?_insert_self] at h
          exact ⟨provider, (Option.some.inj h).symm⟩
        · rw [heq, Dict.get?_insert_of_ne hne, hnone] at h
          cases h
  | initAll runner =>
      have hstill : Dict.get? name (r.execute (.initAll runner)).2 = none :=
        get?_initEach_of_none runner _ hnone
      rw [hstill] at h
      cases h
  | perform name' o =>
      have hstill : Dict.get? name (r.execute (.perform name' o)).2 = none :=
        (touches_perform r name' o).get?_of_none hnone
      rw [hstill] at h
      cases h

/-- What holds of every provider just registered, and is kept by every operation, holds of all
entries after any commands. -/
theorem entry_induction {P : Managed (Transcript π) → Prop} (hfresh : ∀ p, P (.fresh p))
    (hperform : ∀ o m, P m → P (m.perform name o).2) (commands : List (Command π)) :
    ∀ {r : Roster (Transcript π)}, Dict.Sorted r → (∀ m, Dict.get? name r = some m → P m) →
      ∀ {m}, Dict.get? name (executeAll commands r).2 = some m → P m := by
  have hrun : ∀ ops : List Operation, ∀ m, P m → P (m.run name ops).2 := by
    intro ops
    induction ops with
    | nil => exact fun _ hm => hm
    | cons o ops ih => exact fun m hm => ih _ (hperform o m hm)
  induction commands with
  | nil => exact fun _ hP m h => hP m h
  | cons c commands ih =>
      intro r hsorted hP m h
      refine ih (sorted_execute hsorted c) (fun m' hm' => ?_) h
      cases hentry : Dict.get? name r with
      | none =>
          obtain ⟨p, rfl⟩ := fresh_of_execute hentry hm'
          exact hfresh p
      | some m₀ =>
          rw [execute_at hsorted hentry c] at hm'
          exact Option.some.inj hm' ▸ hrun _ m₀ (hP m₀ hentry)

end Roster

end ProviderLink
