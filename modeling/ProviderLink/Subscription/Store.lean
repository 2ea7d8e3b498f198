/-
Subscription records in memory. A record is kept under its context and
its id; ids are handed out in order and never again, so an id that was
deleted, or whose creation failed, stays unknown for good.

Creating is two steps. `reserve` hands out an id; the caller builds the
initial state, for as long as that takes and with the store free for
others; `settle` records the state, or nothing if building failed.
-/
import ProviderLink.Bytes
import ProviderLink.Dict
import ProviderLink.ProviderError

namespace ProviderLink

/-- Where a subscription is kept. -/
structure SubscriptionKey where
  contextId : String
  subscriptionId : String
  deriving DecidableEq, Repr

/-- Keys go by context and then by id. -/
instance : LT SubscriptionKey where
  lt a b := a.contextId < b.contextId ∨
    (a.contextId = b.contextId ∧ a.subscriptionId < b.subscriptionId)

instance : DecidableLT SubscriptionKey := fun a b =>
  inferInstanceAs (Decidable (a.contextId < b.contextId ∨
    (a.contextId = b.contextId ∧ a.subscriptionId < b.subscriptionId)))

/-- A runner's interest in the events of a trigger. -/
structure Subscription where
  contextId : String
  subscriptionId : String
  /-- What the provider keeps for it. -/
  state : Bytes
  deriving DecidableEq

/-- The live subscriptions and how many ids were handed out. -/
structure Store where
  /-- Stands for a count in 64 bits, which comes to the same as long as a store hands out fewer
  than `2 ^ 64` ids. -/
  issued : Nat
  live : Dict SubscriptionKey Subscription

namespace Store

/-- No subscription yet. -/
def empty : Store := ⟨0, []⟩

/-- The id that is handed out as the `n`-th. -/
def idText (n : Nat) : String := "sub-" ++ toString n

/-- Hands out the next id. -/
def reserve (s : Store) : String × Store :=
  (idText (s.issued + 1), { s with issued := s.issued + 1 })

/-- Records a subscription whose state was built; records nothing if that failed. -/
def settle (contextId subscriptionId : String) (built : Outcome Bytes) (s : Store) :
    Outcome Subscription × Store :=
  match built with
  | .error e => (.error e, s)
  | .ok state =>
    let subscription := ⟨contextId, subscriptionId, state⟩
    (.ok subscription,
      { s with live := Dict.insert ⟨contextId, subscriptionId⟩ subscription s.live })

/-- Creates a subscription; `build` is given the id and may itself use the store. -/
def create (contextId : String) (build : String → Store → Outcome Bytes × Store) (s : Store) :
    Outcome Subscription × Store :=
  let (id, s) := s.reserve
  let (built, s) := build id s
  settle contextId id built s

/-- A live subscription. -/
def read (contextId subscriptionId : String) (s : Store) : Outcome Subscription :=
  match Dict.get? ⟨contextId, subscriptionId⟩ s.live with
  | some subscription => .ok subscription
  | none => .error (.unknownSubscription contextId subscriptionId)

/-- Replaces the state of a live subscription. -/
def update (contextId subscriptionId : String) (state : Bytes) (s : Store) :
    Outcome Subscription × Store :=
  match s.read contextId subscriptionId with
  | .error e => (.error e, s)
  | .ok old =>
    let new := { old with state }
    (.ok new, { s with live := Dict.insert ⟨contextId, subscriptionId⟩ new s.live })

/-- Removes a live subscription and returns its last record. -/
def delete (contextId subscriptionId : String) (s : Store) : Outcome Subscription × Store :=
  match s.read contextId subscriptionId with
  | .error e => (.error e, s)
  | .ok last => (.ok last, { s with live := Dict.erase ⟨contextId, subscriptionId⟩ s.live })

/-- The live subscriptions of a context in the order of their ids. -/
def list (contextId : String) (s : Store) : List Subscription :=
  (s.live.map Prod.snd).filter fun subscription => subscription.contextId = contextId

end Store

end ProviderLink
