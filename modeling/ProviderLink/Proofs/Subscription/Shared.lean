/-
A store that any number of callers use at once. The store is locked for
one step at a time, so what the callers do is one sequence of steps; a
creation is two of them, and anything at all may come between: other
callers' steps, or what the building of the state does with the store
itself. The keys whose building is not over are kept beside the store
(`Shared.building`).

# Why a spent id stays spent

An id is *closed* once it was handed out and no creation under it is
under way (`Shared.Closed`). Only `reserve` puts a key under way, always
with an id of its own, so closed ids stay closed (`Closed.step`). Only
the end of a creation makes a key live, so a closed id that is not live
is never live again (`Spent.step`). A deletion and a failed building
each leave their id in that state: the keys under way have different
ids, none of them that of a live key, and no two live keys share one
(`Sound`, which every step keeps).
-/
import Mathlib.Data.List.Nodup
import ProviderLink.Proofs.Dict
import ProviderLink.Proofs.Number.Numeral
import ProviderLink.Subscription.Store

namespace ProviderLink.Store

-- ================================================================= ids

theorem idText_inj {m n : Nat} (h : idText m = idText n) : m = n := by
  have hrepr : m.repr = n.repr := (String.append_right_inj _).1 h
  have hdigits : Nat.toDigits 10 m = Nat.toDigits 10 n := by
    rw [← Nat.toList_repr, hrepr, Nat.toList_repr]
  rw [← Number.Numeral.digitsValue_toDigits m, hdigits, Number.Numeral.digitsValue_toDigits]

/-- Whether an id was handed out. -/
def HandedOut (s : Store) (id : String) : Prop := ∃ n, n ≤ s.issued ∧ id = idText n

theorem HandedOut.mono {s t : Store} {id : String} (h : s.HandedOut id)
    (hle : s.issued ≤ t.issued) : t.HandedOut id := by
  obtain ⟨n, hn, rfl⟩ := h
  exact ⟨n, Nat.le_trans hn hle, rfl⟩

theorem handedOut_reserve (s : Store) : s.reserve.2.HandedOut s.reserve.1 :=
  ⟨s.issued + 1, Nat.le_refl _, rfl⟩

theorem not_handedOut_reserve (s : Store) : ¬s.HandedOut s.reserve.1 := by
  rintro ⟨n, hn, heq⟩
  have hlast : s.issued + 1 = n := idText_inj heq
  omega

-- ============================================================ live keys

/-- The keys of the live subscriptions. -/
def keys (s : Store) : List SubscriptionKey := Dict.keys s.live

/-- What is done to one subscription. -/
inductive Access
  | read
  | update (state : Bytes)
  | delete

/-- Reads, updates or deletes the subscription of a key. -/
def access (a : Access) (key : SubscriptionKey) (s : Store) : Outcome Subscription × Store :=
  match a with
  | .read => (s.read key.contextId key.subscriptionId, s)
  | .update state => s.update key.contextId key.subscriptionId state
  | .delete => s.delete key.contextId key.subscriptionId

theorem read_of_not_mem {key : SubscriptionKey} {s : Store} (h : key ∉ s.keys) :
    s.read key.contextId key.subscriptionId
      = .error (.unknownSubscription key.contextId key.subscriptionId) := by
  have hnone : Dict.get? key s.live = none := Dict.get?_eq_none h
  unfold read
  rw [hnone]

theorem mem_keys_of_read {key : SubscriptionKey} {s : Store} {record : Subscription}
    (h : s.read key.contextId key.subscriptionId = .ok record) : key ∈ s.keys := by
  refine Decidable.byContradiction fun hdead => ?_
  rw [read_of_not_mem hdead] at h
  cases h

/-- A key that is not live has nothing to read, update or delete. -/
theorem access_of_not_mem {key : SubscriptionKey} {s : Store} (h : key ∉ s.keys) (a : Access) :
    s.access a key = (.error (.unknownSubscription key.contextId key.subscriptionId), s) := by
  have hread := read_of_not_mem h
  cases a with
  | read => rw [access, hread]
  | update state => rw [access, update, hread]
  | delete => rw [access, delete, hread]

/-- Access to a subscription makes no key live. -/
theorem mem_of_mem_keys_access {a : Access} {key k : SubscriptionKey} {s : Store}
    (h : k ∈ (s.access a key).2.keys) : k ∈ s.keys := by
  by_cases hlive : key ∈ s.keys
  · cases a with
    | read => exact h
    | update state =>
        simp only [access, update] at h
        split at h
        · exact h
        · obtain ⟨e, he, rfl⟩ := List.mem_map.1 h
          rcases Dict.mem_insert he with rfl | he
          · exact hlive
          · exact List.mem_map_of_mem he
    | delete =>
        simp only [access, delete] at h
        split at h
        · exact h
        · exact (Dict.mem_keys_erase.1 h).2
  · rw [access_of_not_mem hlive] at h
    exact h

theorem issued_access (a : Access) (key : SubscriptionKey) (s : Store) :
    (s.access a key).2.issued = s.issued := by
  cases a with
  | read => rfl
  | update state =>
      simp only [access, update]
      split <;> rfl
  | delete =>
      simp only [access, delete]
      split <;> rfl

/-- What was deleted was live and is not any more. -/
theorem deleted {key : SubscriptionKey} {s : Store} {record : Subscription}
    (h : (s.access .delete key).1 = .ok record) :
    key ∈ s.keys ∧ key ∉ (s.access .delete key).2.keys := by
  simp only [access, delete] at h ⊢
  split at h
  · cases h
  · next last hlast =>
    exact ⟨mem_keys_of_read hlast, fun hkey => (Dict.mem_keys_erase.1 hkey).1 rfl⟩

/-- The end of a creation makes no other key live than its own. -/
theorem mem_of_mem_keys_settle {key k : SubscriptionKey} {built : Outcome Bytes} {s : Store}
    (h : k ∈ (settle key.contextId key.subscriptionId built s).2.keys) :
    k ∈ s.keys ∨ k = key := by
  cases built with
  | error e => exact Or.inl h
  | ok state =>
      obtain ⟨e, he, rfl⟩ := List.mem_map.1 h
      rcases Dict.mem_insert he with rfl | he
      · exact Or.inr rfl
      · exact Or.inl (List.mem_map_of_mem he)

theorem issued_settle (key : SubscriptionKey) (built : Outcome Bytes) (s : Store) :
    (settle key.contextId key.subscriptionId built s).2.issued = s.issued := by
  cases built <;> rfl

/-- A live key is read and can be deleted. -/
theorem exists_deleted {key : SubscriptionKey} {s : Store} (h : key ∈ s.keys) :
    ∃ record, (s.access .delete key).1 = .ok record := by
  obtain ⟨record, hrecord⟩ := Dict.mem_keys.1 h
  refine ⟨record, ?_⟩
  simp only [access, delete, read, hrecord]

theorem read_access_update {key : SubscriptionKey} {s : Store} {record : Subscription}
    (h : s.read key.contextId key.subscriptionId = .ok record) (state : Bytes) :
    (s.access (.update state) key).2.read key.contextId key.subscriptionId
      = .ok { record with state } := by
  simp only [access, update, h]
  unfold read
  rw [Dict.get?_insert_self]

/-- Access to a subscription is no matter for the others. -/
theorem read_access_of_ne {a : Access} {key k : SubscriptionKey} (h : k ≠ key) (s : Store) :
    (s.access a key).2.read k.contextId k.subscriptionId
      = s.read k.contextId k.subscriptionId := by
  have hread : ∀ t : Store, Dict.get? k t.live = Dict.get? k s.live →
      t.read k.contextId k.subscriptionId = s.read k.contextId k.subscriptionId := by
    intro t ht
    unfold read
    rw [ht]
  cases a with
  | read => rfl
  | update state =>
      simp only [access, update]
      split
      · rfl
      · exact hread _ (Dict.get?_insert_of_ne h ..)
  | delete =>
      simp only [access, delete]
      split
      · rfl
      · exact hread _ (Dict.get?_erase_of_ne h ..)

/-- So is the end of a creation. -/
theorem read_settle_of_ne {key k : SubscriptionKey} (h : k ≠ key) (built : Outcome Bytes)
    (s : Store) :
    (settle key.contextId key.subscriptionId built s).2.read k.contextId k.subscriptionId
      = s.read k.contextId k.subscriptionId := by
  cases built with
  | error e => rfl
  | ok state =>
      unfold settle read
      rw [Dict.get?_insert_of_ne h]

-- =============================================================== steps

/-- A store and the creations under way in it. -/
structure Shared where
  store : Store
  building : List SubscriptionKey

/-- What happened in one step, and what came of it. -/
inductive Event
  /-- A creation began: its id was handed out. -/
  | reserved (key : SubscriptionKey)
  /-- A creation ended, with what its building came to. -/
  | settled (key : SubscriptionKey) (built : Outcome Bytes) (result : Outcome Subscription)
  | accessed (a : Access) (key : SubscriptionKey) (result : Outcome Subscription)
  | listed (contextId : String) (records : List Subscription)

/-- The id that a step handed out. -/
def Event.reservedId? : Event → Option String
  | .reserved key => some key.subscriptionId
  | .settled _ _ _ | .accessed _ _ _ | .listed _ _ => none

namespace Shared

/-- A new store that nobody uses yet. -/
def start : Shared := ⟨.empty, []⟩

/-- One step of some caller. A creation may end only if it is under way; all else may happen at
any time. -/
inductive Step : Shared → Event → Shared → Prop
  | reserve (u : Shared) (contextId : String) :
    Step u (.reserved ⟨contextId, u.store.reserve.1⟩)
      ⟨u.store.reserve.2, ⟨contextId, u.store.reserve.1⟩ :: u.building⟩
  | settle (u : Shared) (key : SubscriptionKey) (built : Outcome Bytes)
    (h : key ∈ u.building) :
    Step u
      (.settled key built (settle key.contextId key.subscriptionId built u.store).1)
      ⟨(settle key.contextId key.subscriptionId built u.store).2, u.building.erase key⟩
  | access (u : Shared) (a : Access) (key : SubscriptionKey) :
    Step u (.accessed a key (u.store.access a key).1) ⟨(u.store.access a key).2, u.building⟩
  | list (u : Shared) (contextId : String) :
    Step u (.listed contextId (u.store.list contextId)) u

/-- The steps of all callers, one after the other. -/
inductive Run : Shared → List Event → Shared → Prop
  | nil (u : Shared) : Run u [] u
  | cons {u v w : Shared} {e : Event} {rest : List Event} (first : Step u e v)
    (later : Run v rest w) : Run u (e :: rest) w

theorem Run.append {u v w : Shared} {before after : List Event} (h : Run u before v)
    (h' : Run v after w) : Run u (before ++ after) w := by
  induction h with
  | nil => exact h'
  | cons first _ ih => exact .cons first (ih h')

/-- Creating in one go is a run: what the building does with the store comes between its two
steps. -/
theorem create_run {contextId : String} {build : String → Store → Outcome Bytes × Store}
    {u : Shared} {events : List Event} {building : List SubscriptionKey}
    (hmem : ⟨contextId, u.store.reserve.1⟩ ∈ building)
    (hbuild : Run ⟨u.store.reserve.2, ⟨contextId, u.store.reserve.1⟩ :: u.building⟩ events
      ⟨(build u.store.reserve.1 u.store.reserve.2).2, building⟩) :
    Run u
      (.reserved ⟨contextId, u.store.reserve.1⟩ :: (events ++
        [.settled ⟨contextId, u.store.reserve.1⟩
          (build u.store.reserve.1 u.store.reserve.2).1 (u.store.create contextId build).1]))
      ⟨(u.store.create contextId build).2, building.erase ⟨contextId, u.store.reserve.1⟩⟩ :=
  .cons (.reserve ..) (hbuild.append (.cons (.settle _ _ _ hmem) (.nil _)))

-- =========================================================== closed ids

/-- An id was handed out and nothing is being created under it. -/
def Closed (u : Shared) (id : String) : Prop :=
  u.store.HandedOut id ∧ ∀ key ∈ u.building, key.subscriptionId ≠ id

/-- A closed id of which nothing is live. -/
def Spent (u : Shared) (id : String) : Prop :=
  u.Closed id ∧ ∀ key ∈ u.store.keys, key.subscriptionId ≠ id

variable {u v w : Shared} {e : Event} {events : List Event}

/-- Ids are handed out and never taken back. -/
theorem Step.issued_le (h : Step u e v) : u.store.issued ≤ v.store.issued := by
  cases h with
  | reserve contextId => exact Nat.le_succ _
  | settle key built hkey => exact Nat.le_of_eq (issued_settle ..).symm
  | access a key => exact Nat.le_of_eq (issued_access ..).symm
  | list contextId => exact Nat.le_refl _

/-- Closed ids stay closed. -/
theorem Closed.step {id : String} (hid : u.Closed id) (h : Step u e v) : v.Closed id := by
  obtain ⟨hout, hbuilding⟩ := hid
  refine ⟨hout.mono h.issued_le, fun key hkey => ?_⟩
  cases h with
  | reserve contextId =>
      rcases List.mem_cons.1 hkey with rfl | hkey
      · -- the new id was not handed out before
        rintro rfl
        exact not_handedOut_reserve _ hout
      · exact hbuilding key hkey
  | settle key' built hkey' => exact hbuilding key (List.mem_of_mem_erase hkey)
  | access a key' => exact hbuilding key hkey
  | list contextId => exact hbuilding key hkey

/-- What is live after a step was live before, or was under way. -/
theorem Step.mem_of_mem_keys (h : Step u e v) {key : SubscriptionKey}
    (hkey : key ∈ v.store.keys) : key ∈ u.store.keys ∨ key ∈ u.building := by
  cases h with
  | reserve contextId => exact Or.inl hkey
  | settle key' built hkey' =>
      rcases mem_of_mem_keys_settle hkey with hlive | rfl
      · exact Or.inl hlive
      · exact Or.inr hkey'
  | access a key' => exact Or.inl (mem_of_mem_keys_access hkey)
  | list contextId => exact Or.inl hkey

/-- Spent ids stay spent. -/
theorem Spent.step {id : String} (hid : u.Spent id) (h : Step u e v) : v.Spent id := by
  obtain ⟨hclosed, hdead⟩ := hid
  refine ⟨hclosed.step h, fun key hkey => ?_⟩
  rcases h.mem_of_mem_keys hkey with hlive | hbuilding
  · exact hdead key hlive
  · exact hclosed.2 key hbuilding

theorem Closed.run {id : String} (hid : u.Closed id) (h : Run u events v) : v.Closed id := by
  induction h with
  | nil => exact hid
  | cons first _ ih => exact ih (hid.step first)

theorem Spent.run {id : String} (hid : u.Spent id) (h : Run u events v) : v.Spent id := by
  induction h with
  | nil => exact hid
  | cons first _ ih => exact ih (hid.step first)

/-- Under a closed id no creation ends. -/
theorem Closed.not_settled {key : SubscriptionKey} (hid : u.Closed key.subscriptionId)
    (h : Run u events v) (built : Outcome Bytes) (result : Outcome Subscription) :
    .settled key built result ∉ events := by
  induction h with
  | nil => exact List.not_mem_nil
  | cons first _ ih =>
      intro hmem
      rcases List.mem_cons.1 hmem with rfl | hmem
      · cases first with
        | settle key' built' hkey => exact hid.2 key hkey rfl
      · exact ih (hid.step first) hmem

/-- A spent key answers every access with its own ids. -/
theorem Spent.result {a : Access} {key : SubscriptionKey} {result : Outcome Subscription}
    (hid : u.Spent key.subscriptionId) (h : Run u events v)
    (hmem : .accessed a key result ∈ events) :
    result = .error (.unknownSubscription key.contextId key.subscriptionId) := by
  induction h with
  | nil => exact absurd hmem List.not_mem_nil
  | cons first _ ih =>
      rcases List.mem_cons.1 hmem with rfl | hmem
      · cases first with
        | access a' key' =>
            rw [access_of_not_mem fun hlive => hid.2 key hlive rfl]
      · exact ih (hid.step first) hmem

-- =========================================================== soundness

/-- How the keys in use stand to each other: their ids were handed out, those under way are
different, those of live keys are closed, and no two live keys share one. -/
structure Sound (u : Shared) : Prop where
  handedOut : ∀ key ∈ u.building, u.store.HandedOut key.subscriptionId
  apart : (u.building.map SubscriptionKey.subscriptionId).Nodup
  closed : ∀ key ∈ u.store.keys, u.Closed key.subscriptionId
  single : ∀ k ∈ u.store.keys, ∀ l ∈ u.store.keys, k.subscriptionId = l.subscriptionId → k = l

theorem sound_start : Sound start where
  handedOut := fun _ hkey => absurd hkey List.not_mem_nil
  apart := List.nodup_nil
  closed := fun _ hkey => absurd hkey List.not_mem_nil
  single := fun _ hkey => absurd hkey List.not_mem_nil

/-- The end of a creation closes its id. -/
theorem Sound.closed_erase (hu : Sound u) {key : SubscriptionKey} (hkey : key ∈ u.building)
    {s : Store} (hle : u.store.issued ≤ s.issued) :
    Closed ⟨s, u.building.erase key⟩ key.subscriptionId := by
  refine ⟨(hu.handedOut key hkey).mono hle, fun k hk heq => ?_⟩
  -- another key under way with the same id would be this very key, and that is gone
  have hsame : k = key :=
    List.inj_on_of_nodup_map hu.apart (List.mem_of_mem_erase hk) hkey heq
  have hnodup : u.building.Nodup := List.Nodup.of_map _ hu.apart
  exact (hnodup.mem_erase_iff.1 hk).1 hsame

/-- Every step keeps the keys in use sound. -/
theorem Sound.step (hu : Sound u) (h : Step u e v) : Sound v := by
  have hclosed : ∀ key ∈ u.store.keys, v.Closed key.subscriptionId := fun key hkey =>
    (hu.closed key hkey).step h
  cases h with
  | reserve contextId =>
      refine ⟨fun key hkey => ?_, ?_, hclosed, hu.single⟩
      · rcases List.mem_cons.1 hkey with rfl | hkey
        · exact handedOut_reserve _
        · exact (hu.handedOut key hkey).mono (Nat.le_succ _)
      · refine List.nodup_cons.2 ⟨fun hmem => ?_, hu.apart⟩
        obtain ⟨key, hkey, heq⟩ := List.mem_map.1 hmem
        have hout := hu.handedOut key hkey
        rw [heq] at hout
        exact not_handedOut_reserve _ hout
  | settle key built hkey =>
      have hle := Nat.le_of_eq (issued_settle key built u.store).symm
      refine ⟨fun k hk => ?_, ?_, fun k hk => ?_, fun k hk l hl heq => ?_⟩
      · exact (hu.handedOut k (List.mem_of_mem_erase hk)).mono hle
      · exact hu.apart.sublist (List.erase_sublist.map _)
      · rcases mem_of_mem_keys_settle hk with hlive | rfl
        · exact hclosed k hlive
        · exact hu.closed_erase hkey hle
      · -- the new key shares its id with no live one: those are closed
        rcases mem_of_mem_keys_settle hk with hk' | rfl
        · rcases mem_of_mem_keys_settle hl with hl' | rfl
          · exact hu.single k hk' l hl' heq
          · exact absurd heq.symm ((hu.closed k hk').2 l hkey)
        · rcases mem_of_mem_keys_settle hl with hl' | rfl
          · exact absurd heq ((hu.closed l hl').2 k hkey)
          · rfl
  | access a key =>
      refine ⟨fun k hk => ?_, hu.apart, fun k hk => ?_, fun k hk l hl heq => ?_⟩
      · exact (hu.handedOut k hk).mono (Nat.le_of_eq (issued_access ..).symm)
      · exact hclosed k (mem_of_mem_keys_access hk)
      · exact hu.single k (mem_of_mem_keys_access hk) l (mem_of_mem_keys_access hl) heq
  | list contextId => exact hu

theorem Sound.run (hu : Sound u) (h : Run u events v) : Sound v := by
  induction h with
  | nil => exact hu
  | cons first _ ih => exact ih (hu.step first)

/-- A deletion spends the id of its key. -/
theorem Sound.spent_of_deleted (hu : Sound u) {key : SubscriptionKey} {record : Subscription}
    (h : Step u (.accessed .delete key (.ok record)) v) : v.Spent key.subscriptionId := by
  have hclosed : ∀ k ∈ u.store.keys, v.Closed k.subscriptionId := fun k hk =>
    (hu.closed k hk).step h
  generalize hresult : (Except.ok record : Outcome Subscription) = result at h
  cases h with
  | access a k =>
      obtain ⟨hlive, hgone⟩ := deleted hresult.symm
      refine ⟨hclosed key hlive, fun k hk heq => hgone ?_⟩
      have hsame : k = key := hu.single k (mem_of_mem_keys_access hk) key hlive heq
      exact hsame ▸ hk

/-- So does a building that fails. -/
theorem Sound.spent_of_failed (hu : Sound u) {key : SubscriptionKey} {error : ProviderError}
    {result : Outcome Subscription} (h : Step u (.settled key (.error error) result) v) :
    v.Spent key.subscriptionId := by
  cases h with
  | settle k built hkey =>
      refine ⟨hu.closed_erase hkey (Nat.le_refl _), fun k hk heq => ?_⟩
      exact (hu.closed k hk).2 key hkey heq.symm

-- ================================================================ runs

/-- What was deleted in the course of a run is spent at its end. -/
theorem Sound.spent_of_mem_deleted (hu : Sound u) (h : Run u events v) {key : SubscriptionKey}
    {record : Subscription} (hmem : .accessed .delete key (.ok record) ∈ events) :
    v.Spent key.subscriptionId := by
  induction h with
  | nil => exact absurd hmem List.not_mem_nil
  | cons first later ih =>
      rcases List.mem_cons.1 hmem with rfl | hmem
      · exact (hu.spent_of_deleted first).run later
      · exact ih (hu.step first) hmem

/-- So is what could not be built. -/
theorem Sound.spent_of_mem_failed (hu : Sound u) (h : Run u events v) {key : SubscriptionKey}
    {error : ProviderError} {result : Outcome Subscription}
    (hmem : .settled key (.error error) result ∈ events) : v.Spent key.subscriptionId := by
  induction h with
  | nil => exact absurd hmem List.not_mem_nil
  | cons first later ih =>
      rcases List.mem_cons.1 hmem with rfl | hmem
      · exact (hu.spent_of_failed first).run later
      · exact ih (hu.step first) hmem

/-- A run hands out different ids, none of which was handed out before. -/
theorem Run.reserved (h : Run u events v) :
    (events.filterMap Event.reservedId?).Nodup
      ∧ ∀ id ∈ events.filterMap Event.reservedId?, ¬u.store.HandedOut id := by
  induction h with
  | nil => exact ⟨List.nodup_nil, fun _ hid => absurd hid List.not_mem_nil⟩
  | @cons u v w e rest first _ ih =>
      obtain ⟨hnodup, hnew⟩ := ih
      have hold : ∀ id ∈ rest.filterMap Event.reservedId?, ¬u.store.HandedOut id :=
        fun id hid hout => hnew id hid (hout.mono first.issued_le)
      cases first with
      | reserve contextId =>
          have hcons := List.filterMap_cons_some (l := rest)
            (show Event.reservedId? (.reserved ⟨contextId, u.store.reserve.1⟩) = _ from rfl)
          rw [hcons]
          refine ⟨List.nodup_cons.2 ⟨fun hid => ?_, hnodup⟩, fun id hid => ?_⟩
          · exact hnew _ hid (handedOut_reserve _)
          · rcases List.mem_cons.1 hid with rfl | hid
            · exact not_handedOut_reserve _
            · exact hold id hid
      | settle | access | list =>
          rw [List.filterMap_cons_none rfl]
          exact ⟨hnodup, hold⟩

/-- However the steps of the callers come between each other, at any moment of a run: no id is
handed out twice in the whole of it; what was deleted is not live, and all that is read, updated
or deleted under its key from then on is unknown under just these ids; an id whose building
fails at any time is not live in any context; and no access makes a key live. -/
theorem run_ids {now last : Shared} {past future : List Event} (hpast : Run start past now)
    (hfuture : Run now future last) :
    ((past ++ future).filterMap Event.reservedId?).Nodup
      ∧ (∀ key record, .accessed .delete key (.ok record) ∈ past →
          key ∉ now.store.keys ∧ ∀ a result, .accessed a key result ∈ future →
            result = .error (.unknownSubscription key.contextId key.subscriptionId))
      ∧ (∀ key error result, .settled key (.error error) result ∈ past ++ future →
          ∀ contextId, ⟨contextId, key.subscriptionId⟩ ∉ now.store.keys)
      ∧ ∀ a key result next, Step now (.accessed a key result) next →
          ∀ k, k ∉ now.store.keys → k ∉ next.store.keys := by
  have hsound : Sound now := sound_start.run hpast
  refine ⟨(hpast.append hfuture).reserved.1, ?_, ?_, ?_⟩
  · intro key record hdeleted
    have hspent := sound_start.spent_of_mem_deleted hpast hdeleted
    exact ⟨fun hlive => hspent.2 key hlive rfl, fun a result => hspent.result hfuture⟩
  · intro key error result hfailed contextId hlive
    rcases List.mem_append.1 hfailed with hfailed | hfailed
    · exact (sound_start.spent_of_mem_failed hpast hfailed).2 _ hlive rfl
    · -- a live id is closed, so its building is over
      have hclosed : now.Closed key.subscriptionId := hsound.closed ⟨contextId, _⟩ hlive
      exact hclosed.not_settled hfuture _ result hfailed
  · intro a key result next hstep k hdead hlive
    cases hstep with
    | access => exact hdead (mem_of_mem_keys_access hlive)

/-- The key of the `n`-th creation, for a demonstration. -/
def demoKey (n : Nat) : SubscriptionKey := ⟨"acme", idText n⟩

/-- Its record. -/
def demoRecord (n : Nat) : Subscription := ⟨"acme", idText n, .empty⟩

/-- While the first subscription is being built a second one comes and goes, and the building of
a third fails. -/
def demoPast : List Event :=
  [.reserved (demoKey 1), .reserved (demoKey 2),
    .settled (demoKey 2) (.ok .empty) (.ok (demoRecord 2)),
    .accessed .delete (demoKey 2) (.ok (demoRecord 2)), .reserved (demoKey 3),
    .settled (demoKey 3) (.error (.failed "no answer")) (.error (.failed "no answer")),
    .settled (demoKey 1) (.ok .empty) (.ok (demoRecord 1))]

/-- What is tried with the second one afterwards. -/
def demoFuture : List Event :=
  [.accessed (.update .empty) (demoKey 2) (.error (.unknownSubscription "acme" (idText 2))),
    .reserved (demoKey 4)]

/-- The store by then. -/
def demoStore (issued : Nat) : Store := ⟨issued, [(demoKey 1, demoRecord 1)]⟩

theorem run_demoPast : Run start demoPast ⟨demoStore 3, []⟩ :=
  .cons (.reserve _ "acme") <| .cons (.reserve _ "acme") <|
    .cons (.settle _ (demoKey 2) (.ok .empty) (List.mem_cons_self ..)) <|
      .cons (.access _ .delete (demoKey 2)) <| .cons (.reserve _ "acme") <|
        .cons (.settle _ (demoKey 3) (.error (.failed "no answer")) (List.mem_cons_self ..)) <|
          .cons (.settle _ (demoKey 1) (.ok .empty) (List.mem_cons_self ..)) <| .nil _

theorem run_demoFuture : Run ⟨demoStore 3, []⟩ demoFuture ⟨demoStore 4, [demoKey 4]⟩ :=
  .cons (.access _ (.update .empty) (demoKey 2)) <| .cons (.reserve _ "acme") <| .nil _

/-- Neither the one that was deleted nor the one that failed is live afterwards. -/
theorem run_ids_demo : Run start demoPast ⟨demoStore 3, []⟩
    ∧ Run ⟨demoStore 3, []⟩ demoFuture ⟨demoStore 4, [demoKey 4]⟩
    ∧ demoKey 2 ∉ (demoStore 3).keys ∧ demoKey 3 ∉ (demoStore 3).keys := by
  obtain ⟨-, hdeleted, hfailed, -⟩ := run_ids run_demoPast run_demoFuture
  refine ⟨run_demoPast, run_demoFuture, ?_, ?_⟩
  · exact (hdeleted (demoKey 2) (demoRecord 2) (by simp [demoPast])).1
  · exact hfailed (demoKey 3) (.failed "no answer") (.error (.failed "no answer"))
      (by simp [demoPast]) "acme"

end Shared

end ProviderLink.Store
