/-
What a runner remembers of a subscription, as a function of what its
operations gave back. Of all outputs only those of the three operations
that name a subscription tell anything of it, and of those only two
kinds: the call went well, or the provider knows of no such subscription
(`told`). What is remembered of a key is what the last output about it
told, over any run of commands (`Roster.run_lastState`).

One operation on one entry changes what is remembered of a key by what
its output tells of it (`lastState_perform`). A command does the same to
a roster, in which an unregistered name counts as one of which nothing is
remembered: registering it adds nothing, and operating on it tells
nothing (`lastOf_execute`).
-/
import ProviderLink.Proofs.Runner.Command
import ProviderLink.Provider.Demo

namespace ProviderLink

-- ================================================================ notes

namespace Managed

section Notes

variable {π : Type} {contextId id : String}

theorem get?_statesIn (m : Managed π) (contextId id : String) :
    Dict.get? id (m.statesIn contextId) = m.lastState contextId id := by
  unfold statesIn lastState
  cases Dict.get? contextId m.lastStates <;> rfl

theorem lastState_remember_self (m : Managed π) (contextId id : String) (state : Bytes) :
    (m.remember contextId id state).lastState contextId id = some state := by
  unfold lastState remember
  rw [Dict.get?_insert_self]
  exact Dict.get?_insert_self ..

theorem lastState_remember_of_ne {k : SubscriptionKey} (h : k ≠ ⟨contextId, id⟩)
    (m : Managed π) (state : Bytes) :
    (m.remember contextId id state).lastState k.contextId k.subscriptionId
      = m.lastState k.contextId k.subscriptionId := by
  obtain ⟨context, other⟩ := k
  by_cases hcontext : context = contextId
  · subst hcontext
    have hid : other ≠ id := fun heq => h (heq ▸ rfl)
    unfold lastState remember
    dsimp only
    rw [Dict.get?_insert_self, Option.bind_some, Dict.get?_insert_of_ne hid, get?_statesIn]
    rfl
  · unfold lastState remember
    dsimp only
    rw [Dict.get?_insert_of_ne hcontext]

theorem lastState_forget_self (m : Managed π) (contextId id : String) :
    (m.forget contextId id).lastState contextId id = none := by
  unfold lastState forget
  rw [Dict.get?_insert_self]
  exact Dict.get?_erase_self ..

theorem lastState_forget_of_ne {k : SubscriptionKey} (h : k ≠ ⟨contextId, id⟩)
    (m : Managed π) :
    (m.forget contextId id).lastState k.contextId k.subscriptionId
      = m.lastState k.contextId k.subscriptionId := by
  obtain ⟨context, other⟩ := k
  by_cases hcontext : context = contextId
  · subst hcontext
    have hid : other ≠ id := fun heq => h (heq ▸ rfl)
    unfold lastState forget
    dsimp only
    rw [Dict.get?_insert_self, Option.bind_some, Dict.get?_erase_of_ne hid, get?_statesIn]
    rfl
  · unfold lastState forget
    dsimp only
    rw [Dict.get?_insert_of_ne hcontext]

end Notes

end Managed

-- ============================================================== outputs

/-- What a result says of a subscription's state: it is now this, it is gone, or nothing. -/
def told : Result (Option Bytes) → Option (Option Bytes)
  | .ok state => some state
  | .error (.provider _ (.unknownSubscription _ _)) => some none
  | .error _ => none

/-- What a result about one subscription says of another: nothing, unless it is the same. -/
def toldOf (k about : SubscriptionKey) (result : Result (Option Bytes)) : Option (Option Bytes) :=
  if k = about then told result else none

/-- What an operation, by its output, tells of the subscription of a key. -/
def Performed.tells (k : SubscriptionKey) : Performed → Option (Option Bytes)
  | ⟨.readSubscription contextId id, output⟩ | ⟨.updateSubscription contextId id _, output⟩ =>
    toldOf k ⟨contextId, id⟩ (output.map some)
  | ⟨.deleteSubscription contextId id, output⟩ =>
    toldOf k ⟨contextId, id⟩ (output.map fun _ => none)
  | _ => none

/-- What a command tells of the subscription of a key at the provider of a name. -/
def Executed.tells {π : Type} (name : String) (k : SubscriptionKey) :
    Executed π → Option (Option Bytes)
  | ⟨.perform name' o, output⟩ => if name' = name then Performed.tells k ⟨o, output⟩ else none
  | _ => none

/-- What is remembered of the subscription of a key after a run, if it was `last` before. -/
def lastTold {π : Type} (name : String) (k : SubscriptionKey) (run : List (Executed π))
    (last : Option Bytes) : Option Bytes :=
  run.foldl (fun last e => (e.tells name k).getD last) last

namespace Managed

variable {π : Type}

/-- Taking note of an outcome changes what is remembered as its result tells. -/
theorem lastState_note (m : Managed π) (name contextId id : String)
    (outcome : Outcome (Option Bytes)) (k : SubscriptionKey) :
    (m.note contextId id outcome).lastState k.contextId k.subscriptionId
      = (toldOf k ⟨contextId, id⟩ (outcome.mapError (.provider name))).getD
          (m.lastState k.contextId k.subscriptionId) := by
  unfold toldOf
  by_cases hk : k = ⟨contextId, id⟩
  · subst hk
    rw [if_pos rfl]
    cases outcome with
    | ok state =>
        cases state with
        | some state => exact lastState_remember_self ..
        | none => exact lastState_forget_self ..
    | error e =>
        cases e with
        | unknownSubscription => exact lastState_forget_self ..
        | _ => rfl
  · rw [if_neg hk]
    unfold note
    split
    · exact lastState_remember_of_ne hk ..
    · exact lastState_forget_of_ne hk ..
    · exact lastState_forget_of_ne hk ..
    · rfl

variable [Provider π]

/-- What is asked without a note is remembered nowhere. -/
theorem lastStates_ask (name : String) (c : Call) (m : Managed π) :
    (m.askNoting name c fun _ m => m).2.lastStates = m.lastStates := by
  unfold askNoting
  split <;> rfl

/-- What is asked with a note is remembered as its result tells; a refusal tells nothing. -/
theorem lastState_askNoting (name : String) (c : Call) (f : c.Reply → Option Bytes)
    (contextId id : String) (m : Managed π) (k : SubscriptionKey) :
    let asked := m.askNoting name c fun reply m => m.note contextId id (reply.map f)
    asked.2.lastState k.contextId k.subscriptionId
      = (toldOf k ⟨contextId, id⟩ (asked.1.map f)).getD
          (m.lastState k.contextId k.subscriptionId) := by
  intro asked
  have hrefused : ∀ {e : RosterError}, asked = (.error e, m) → told (.error e) = none →
      asked.2.lastState k.contextId k.subscriptionId
        = (toldOf k ⟨contextId, id⟩ (asked.1.map f)).getD
            (m.lastState k.contextId k.subscriptionId) := by
    intro e heq htold
    rw [heq, toldOf, Except.map, htold, ite_self]
    rfl
  cases hstatus : m.status with
  | registered =>
      exact hrefused (e := .notInitialized name) (by simp only [asked, askNoting, hstatus]) rfl
  | failed reason =>
      exact hrefused (e := .initFailed name reason) (by simp only [asked, askNoting, hstatus]) rfl
  | ready config =>
      have heq : asked = ((m.call c).1.mapError (.provider name),
          (m.call c).2.note contextId id ((m.call c).1.map f)) := by
        simp only [asked, askNoting, hstatus]
      have hresult : ((m.call c).1.mapError (RosterError.provider name)).map f
          = ((m.call c).1.map f).mapError (RosterError.provider name) := by
        cases (m.call c).1 <;> rfl
      rw [heq, hresult]
      exact lastState_note ..

theorem lastStates_initOnce (name : String) (runner : RunnerData) (m : Managed π) :
    (m.initOnce name runner).2.lastStates = m.lastStates := by
  unfold initOnce
  split
  · rfl
  · rfl
  · unfold Roster.initManaged
    dsimp only
    split
    · rfl
    · split <;> rfl

/-- An operation changes what is remembered of a key by what its output tells of it. -/
theorem lastState_perform (name : String) (o : Operation) (m : Managed π) (k : SubscriptionKey) :
    (m.perform name o).2.lastState k.contextId k.subscriptionId
      = (Performed.tells k ⟨o, (m.perform name o).1⟩).getD
          (m.lastState k.contextId k.subscriptionId) := by
  have hkept : ∀ {m' : Managed π}, m'.lastStates = m.lastStates →
      m'.lastState k.contextId k.subscriptionId = m.lastState k.contextId k.subscriptionId := by
    intro m' heq
    rw [lastState, lastState, heq]
  cases o with
  | init runner => exact hkept (lastStates_initOnce name runner m)
  | status | lastState => rfl
  | evaluateAction | mapPayloadToTriggerKey | createSubscription | introspect =>
      exact hkept (lastStates_ask name _ m)
  | readSubscription | updateSubscription | deleteSubscription =>
      exact lastState_askNoting name _ _ _ _ m k

end Managed

-- ================================================================= runs

namespace Roster

variable {π : Type}

/-- What is remembered of a subscription, if anything of its provider is. -/
def lastOf (r : Roster π) (name : String) (k : SubscriptionKey) : Option Bytes :=
  (Dict.get? name r).bind fun m => m.lastState k.contextId k.subscriptionId

variable [Provider π] {name : String}

/-- Operating on a name that nobody registered tells nothing. -/
theorem tells_perform_of_none {r : Roster π} (h : Dict.get? name r = none) (o : Operation)
    (k : SubscriptionKey) : Performed.tells k ⟨o, (r.perform name o).1⟩ = none := by
  rw [perform_of_none h]
  cases o with
  | readSubscription | updateSubscription | deleteSubscription => exact ite_self _
  | _ => rfl

/-- What is registered comes with nothing remembered, and what is registered again is not. -/
theorem lastOf_register (name' : String) (provider : π) (r : Roster (Transcript π))
    (k : SubscriptionKey) :
    (r.execute (.register name' provider)).2.lastOf name k = r.lastOf name k := by
  rcases execute_register name' provider r with heq | ⟨hnone, heq⟩
  · rw [heq]
  · by_cases hname : name = name'
    · subst hname
      rw [heq, lastOf, lastOf, Dict.get?_insert_self, hnone]
      rfl
    · rw [heq, lastOf, lastOf, Dict.get?_insert_of_ne hname]

/-- Initializing all leaves what is remembered. -/
theorem lastOf_initAll {r : Roster (Transcript π)} (hsorted : Dict.Sorted r)
    (runner : RunnerData) (k : SubscriptionKey) :
    (r.initAll runner).2.lastOf name k = r.lastOf name k := by
  cases hentry : Dict.get? name r with
  | none =>
      have hafter : Dict.get? name (r.initAll runner).2 = none :=
        get?_initEach_of_none runner _ hentry
      rw [lastOf, lastOf, hafter, hentry]
  | some m =>
      have hafter : Dict.get? name (r.initAll runner).2 = some (m.initOnce name runner).2 :=
        execute_at hsorted hentry (.initAll runner)
      rw [lastOf, lastOf, hafter, hentry]
      exact Managed.lastState_perform name (.init runner) m k

/-- An operation changes what is remembered by what its output tells. -/
theorem lastOf_perform (name' : String) (o : Operation) (r : Roster π) (k : SubscriptionKey) :
    (r.perform name' o).2.lastOf name k
      = (if name' = name then Performed.tells k ⟨o, (r.perform name' o).1⟩ else none).getD
          (r.lastOf name k) := by
  by_cases hname : name' = name
  · subst hname
    rw [if_pos rfl]
    cases hentry : Dict.get? name' r with
    | none =>
        have hafter := (touches_perform r name' o).get?_of_none hentry
        rw [tells_perform_of_none hentry, lastOf, lastOf, hafter, hentry]
        rfl
    | some m =>
        obtain ⟨houtput, hafter⟩ := perform_at hentry o
        rw [houtput, lastOf, lastOf, hafter, hentry]
        exact Managed.lastState_perform name' o m k
  · have hother := (touches_perform r name' o).get?_of_ne fun heq => hname heq.symm
    rw [if_neg hname, lastOf, lastOf, hother]
    rfl

/-- A command changes what is remembered of a key by what it tells of it. -/
theorem lastOf_execute {r : Roster (Transcript π)} (hsorted : Dict.Sorted r) (c : Command π)
    (k : SubscriptionKey) :
    (r.execute c).2.lastOf name k
      = (Executed.tells name k ⟨c, (r.execute c).1⟩).getD (r.lastOf name k) := by
  cases c with
  | register name' provider => exact lastOf_register name' provider r k
  | initAll runner => exact lastOf_initAll hsorted runner k
  | perform name' o => exact lastOf_perform name' o r k

/-- So does a run of commands. -/
theorem lastOf_executeAll (commands : List (Command π)) (k : SubscriptionKey) :
    ∀ {r : Roster (Transcript π)}, Dict.Sorted r →
      (executeAll commands r).2.lastOf name k
        = lastTold name k (executeAll commands r).1 (r.lastOf name k) := by
  induction commands with
  | nil => exact fun _ => rfl
  | cons c commands ih =>
      intro r hsorted
      have hrest := ih (sorted_execute hsorted c)
      rw [lastOf_execute hsorted c] at hrest
      exact hrest

/-- After any commands, what a runner remembers of a subscription of a registered provider is what
their outputs told of it last: the state that the last read or update of it gave back, and none if
it was deleted since or an answer since knew of no such subscription. -/
theorem run_lastState (commands : List (Command π)) (h : Dict.has name (after commands))
    (contextId id : String) :
    (after commands).lastState name contextId id
      = .ok (lastTold name ⟨contextId, id⟩ (executeAll commands []).1 none) := by
  obtain ⟨m, hentry⟩ := Dict.has_iff.1 h
  have hlast : (after commands).lastOf name ⟨contextId, id⟩
      = lastTold name ⟨contextId, id⟩ (executeAll commands []).1 none :=
    lastOf_executeAll commands _ List.Pairwise.nil
  rw [lastState_at hentry, ← hlast, lastOf, hentry]
  rfl

/-- A demonstration provider that has a subscription when it is registered. -/
def demoSubscriber : Demo :=
  ⟨⟨1, [(⟨"acme", "sub-1"⟩, ⟨"acme", "sub-1", "held".toUTF8⟩)]⟩, false⟩

/-- It is initialized and the subscription is read. -/
def demoReading : List (Command Demo) :=
  [.register "demo" demoSubscriber, .perform "demo" (.init ⟨Demo.runner.global, []⟩),
    .perform "demo" (.readSubscription "acme" "sub-1")]

theorem run_lastState_demo :
    let later := demoReading ++ [.perform "demo" (.deleteSubscription "acme" "sub-1"),
      .perform "demo" (.lastState "acme" "sub-1")]
    Dict.has "demo" (after demoReading) = true
      ∧ (after demoReading).lastState "demo" "acme" "sub-1" = .ok (some "held".toUTF8)
      ∧ Dict.has "demo" (after later) = true
      ∧ (after later).lastState "demo" "acme" "sub-1" = .ok none :=
  ⟨rfl, run_lastState demoReading rfl "acme" "sub-1", rfl, run_lastState _ rfl "acme" "sub-1"⟩

end Roster

end ProviderLink
