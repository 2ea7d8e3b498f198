/-
The providers of a runner keep out of each other's way. What an operation
gives back and what it makes of the entry of its name is a matter of that
entry (`perform_local`), and it makes nothing of the others
(`get?_perform_of_ne`). Hence operations on different names can change
places: each gives back what it did, and the same roster comes of both
(`perform_comm`).

Initializing the providers of some names is then no matter of their order.
What each is answered is what it would be answered alone (`initEach_eq_map`),
since it is still as it was when its turn comes; and two neighbours that
change places leave the same roster, so any order does (`initEach_perm`).
A name that stands twice is no exception: its second turn changes places
with its first like any other.
-/
import ProviderLink.Proofs.Runner.Command
import ProviderLink.Provider.Demo

namespace ProviderLink

/-- The one provider that a command is about, if it is not about all. -/
def Command.name? {π : Type} : Command π → Option String
  | register name _ | perform name _ => some name
  | initAll _ => none

namespace Roster

-- ============================================================= one name

section Local

variable {π : Type} [Provider π] {name other : String} {r r' : Roster π}

/-- An operation is a matter of the entry of its name. -/
theorem perform_local (h : Dict.get? name r' = Dict.get? name r) (o : Operation) :
    (r'.perform name o).1 = (r.perform name o).1
      ∧ Dict.get? name (r'.perform name o).2 = Dict.get? name (r.perform name o).2 := by
  cases hentry : Dict.get? name r with
  | none =>
      rw [perform_of_none hentry, perform_of_none (h.trans hentry)]
      exact ⟨rfl, h⟩
  | some m =>
      have hhere := perform_at hentry o
      have hthere := perform_at (h.trans hentry) o
      exact ⟨hthere.result.trans hhere.result.symm, hthere.entry.trans hhere.entry.symm⟩

theorem get?_perform_of_ne (h : other ≠ name) (o : Operation) (r : Roster π) :
    Dict.get? other (r.perform name o).2 = Dict.get? other r :=
  (touches_perform r name o).get?_of_ne h

theorem sorted_perform (h : Dict.Sorted r) (name : String) (o : Operation) :
    Dict.Sorted (r.perform name o).2 :=
  (touches_perform r name o).sorted h

-- ============================================================ two names

/-- Operations on different names can change places. -/
theorem perform_comm (hsorted : Dict.Sorted r) (hne : name ≠ other) (o o' : Operation) :
    ((r.perform name o).2.perform other o').1 = (r.perform other o').1
      ∧ ((r.perform other o').2.perform name o).1 = (r.perform name o).1
      ∧ ((r.perform name o).2.perform other o').2 = ((r.perform other o').2.perform name o).2 := by
  have hother := perform_local (get?_perform_of_ne hne.symm o r) o'
  have hname := perform_local (get?_perform_of_ne hne o' r) o
  refine ⟨hother.1, hname.1, Dict.eq_of_get? (sorted_perform (sorted_perform hsorted ..) ..)
    (sorted_perform (sorted_perform hsorted ..) ..) fun k => ?_⟩
  by_cases hk : k = name
  · subst hk
    rw [get?_perform_of_ne hne, hname.2]
  · rw [get?_perform_of_ne hk]
    by_cases hk' : k = other
    · subst hk'
      exact hother.2
    · rw [get?_perform_of_ne hk', get?_perform_of_ne hk', get?_perform_of_ne hk]

-- ================================================================== all

/-- Providers that are initialized one after the other are answered what each would be alone. -/
theorem initEach_eq_map (runner : RunnerData) {names : List String} (hnodup : names.Nodup) :
    ∀ r : Roster π, (initEach runner names r).1
      = names.map fun name => (name, (r.init name runner).1) := by
  induction names with
  | nil => exact fun _ => rfl
  | cons name names ih =>
      intro r
      obtain ⟨hfresh, hrest⟩ := List.nodup_cons.1 hnodup
      have hlater : (initEach runner names (r.init name runner).2).1
          = names.map fun other => (other, (r.init other runner).1) := by
        rw [ih hrest]
        refine List.map_congr_left fun other hmem => ?_
        have hne : other ≠ name := fun heq => hfresh (heq ▸ hmem)
        have hstill := perform_local (get?_perform_of_ne hne (.init runner) r) (.init runner)
        exact congrArg (Prod.mk other) hstill.1
      exact congrArg (List.cons _) hlater

/-- In whatever order they are initialized, the same roster comes of it. -/
theorem initEach_perm (runner : RunnerData) {names names' : List String} (h : names.Perm names') :
    ∀ {r : Roster π}, Dict.Sorted r →
      (initEach runner names r).2 = (initEach runner names' r).2 := by
  induction h with
  | nil => exact fun _ => rfl
  | cons name _ ih => exact fun hsorted => ih ((touches_init _ name runner).sorted hsorted)
  | swap name name' names =>
      intro r hsorted
      by_cases hne : name' = name
      · rw [hne]
      · have hcomm := (perform_comm hsorted hne (.init runner) (.init runner)).2.2
        exact congrArg (fun r => (initEach runner names r).2) hcomm
  | trans _ _ ih ih' => exact fun hsorted => (ih hsorted).trans (ih' hsorted)

end Local

-- ================================================================= runs

variable {π : Type} [Provider π]

/-- A command about one name makes nothing of the entries of others. -/
theorem get?_execute_of_ne {c : Command π} {name other : String} (hname : c.name? = some name)
    (hne : other ≠ name) (r : Roster (Transcript π)) :
    Dict.get? other (r.execute c).2 = Dict.get? other r := by
  cases c with
  | register name' provider =>
      cases hname
      rcases execute_register name provider r with heq | ⟨-, heq⟩
      · rw [heq]
      · rw [heq, Dict.get?_insert_of_ne hne]
  | initAll runner => cases hname
  | perform name' o =>
      cases hname
      exact get?_perform_of_ne hne o r

/-- After any commands, a command about one name leaves the entries of all others as they are:
where their providers are in their lives, what is remembered of their subscriptions and what they
received; each entry holds its provider, and providers share nothing. So initializing all gives
back, for every registered name once and in order, what initializing it alone would, in this
roster and in any other that has it with the same entry; it leaves every entry as that would; and
in whatever order the providers are initialized, they are answered the same and the same roster
comes of it. -/
theorem run_apart (commands : List (Command π)) :
    let r := after commands
    (∀ c name other, c.name? = some name → other ≠ name →
        Dict.get? other (r.execute c).2 = Dict.get? other r)
      ∧ r.names.Pairwise (· < ·) ∧ (∀ name, name ∈ r.names ↔ Dict.has name r = true)
      ∧ ∀ runner,
        (r.initAll runner).1 = r.names.map (fun name => (name, (r.init name runner).1))
          ∧ (∀ name (r' : Roster (Transcript π)), Dict.get? name r' = Dict.get? name r →
              (r'.init name runner).1 = (r.init name runner).1)
          ∧ (∀ name, Dict.get? name (r.initAll runner).2 = Dict.get? name (r.init name runner).2)
          ∧ ∀ order, order.Perm r.names → initEach runner order r
              = (order.map (fun name => (name, (r.init name runner).1)), (r.initAll runner).2) := by
  intro r
  have hsorted : Dict.Sorted r := sorted_executeAll commands List.Pairwise.nil
  have hnodup : r.names.Nodup := Dict.nodup_keys hsorted
  refine ⟨fun c name other hname hne => get?_execute_of_ne hname hne r,
    Dict.sorted_iff_keys.1 hsorted, fun name => Dict.has_iff_mem_keys.symm, fun runner =>
      ⟨initEach_eq_map runner hnodup r, fun name r' h => (perform_local h (.init runner)).1,
        fun name => ?_, fun order horder => ?_⟩⟩
  · cases hentry : Dict.get? name r with
    | none =>
        exact (get?_initEach_of_none runner _ hentry).trans
          ((touches_init r name runner).get?_of_none hentry).symm
    | some m =>
        have hmem : name ∈ r.names := List.mem_map_of_mem (Dict.mem_of_get? hentry)
        exact (initEach_at runner hnodup hmem hentry).trans (init_at hentry runner).entry.symm
  · have hresults := initEach_eq_map runner (horder.nodup_iff.2 hnodup) r
    exact Prod.ext hresults (initEach_perm runner horder hsorted)

/-- Two demonstration providers are registered, of which one fails. -/
def demoPair : List (Command Demo) := [.register "good" (.new false), .register "bad" (.new true)]

theorem run_apart_demo :
    let r : Roster (Transcript Demo) := after demoPair
    let runner : RunnerData := ⟨Demo.runner.global, []⟩
    let failure := RosterError.provider "bad" (.failed "vendor credentials rejected")
    (Command.perform "bad" (.init runner) : Command Demo).name? = some "bad" ∧ "good" ≠ "bad"
      ∧ Dict.get? "good" (r.init "bad" runner).2 = Dict.get? "good" r
      ∧ (r.initAll runner).1 = [("bad", .error failure), ("good", .ok ⟨true⟩)]
      ∧ ["good", "bad"].Perm r.names
      ∧ initEach runner ["good", "bad"] r
        = ([("good", .ok ⟨true⟩), ("bad", .error failure)], (r.initAll runner).2) := by
  intro r runner failure
  obtain ⟨happart, -, -, hinit⟩ := run_apart demoPair
  obtain ⟨hall, -, -, horder⟩ := hinit runner
  have hperm : ["good", "bad"].Perm r.names := List.Perm.swap _ _ _
  exact ⟨rfl, by decide, happart (.perform "bad" (.init runner)) _ _ rfl (by decide), hall, hperm,
    horder _ hperm⟩

end Roster

end ProviderLink
