/-
A store that is used by one caller, one use after the other. What comes of
it can be told without the store: from the state that each key has, if it
has one, and from the ids that were handed out (`Table`). The rules of that
account (`Does`) say what each use answers and which single key it is about,
and what a store answers is always what they say (`does_perform`).

A subscription may take uses of the store to build, creations among them,
so that one use may hold others. The account of a creation holds that of
the uses in between, and the induction is along both kinds of nesting at
once. Its invariant is that the store is in order (`Tidy`). What makes a
creation add a key rather than replace one is that uses follow each other
(`Follows`): an id that was handed out stays so, and a key of such an id
that is gone, or was never there, does not come back.

Contexts are apart (`Use.Within`): what another context reads and lists is
decided by its own entries, and these no use touches.
-/
import Mathlib.Data.List.Perm.Basic
import Mathlib.Logic.Function.Basic
import Mathlib.Order.Defs.LinearOrder
import ProviderLink.Proofs.Subscription.Shared

namespace ProviderLink

-- ======================================================== order of keys

namespace SubscriptionKey

theorem lt_iff {k l : SubscriptionKey} :
    k < l ↔ k.contextId < l.contextId ∨
      k.contextId = l.contextId ∧ k.subscriptionId < l.subscriptionId := Iff.rfl

instance : LE SubscriptionKey := .ofLT _

theorem le_iff {k l : SubscriptionKey} : k ≤ l ↔ ¬l < k := Iff.rfl

instance : Std.IsLinearOrder SubscriptionKey where
  le_refl k := by
    rw [le_iff, lt_iff]
    grind
  le_trans k l m := by
    simp only [le_iff, lt_iff]
    grind
  le_antisymm k l := by
    cases k
    cases l
    simp only [le_iff, lt_iff, mk.injEq]
    grind
  le_total k l := by
    simp only [le_iff, lt_iff]
    grind

instance : Std.LawfulOrderLT SubscriptionKey where
  lt_iff k l := by
    simp only [le_iff, lt_iff]
    grind

/-- The record that is kept under a key. -/
def record (key : SubscriptionKey) (state : Bytes) : Subscription :=
  ⟨key.contextId, key.subscriptionId, state⟩

end SubscriptionKey

/-- The key that a record is kept under. -/
def Subscription.key (record : Subscription) : SubscriptionKey :=
  ⟨record.contextId, record.subscriptionId⟩

namespace Store

-- ================================================================= uses

/-- One use of a store. What is used while a subscription is built comes before what its building
comes to. -/
inductive Use
  | create (contextId : String) (uses : String → List Use) (built : String → Outcome Bytes)
  | access (a : Access) (key : SubscriptionKey)
  | list (contextId : String)

/-- What a use is answered. -/
inductive Answer
  | one (outcome : Outcome Subscription)
  | all (records : List Subscription)

mutual

/-- The answers to a use, those to the uses in it first, and the store afterwards. -/
def perform : Use → Store → List Answer × Store
  | .create contextId uses built, s =>
    let within := performAll (uses s.reserve.1) s.reserve.2
    let created := s.create contextId fun id t => (built id, (performAll (uses id) t).2)
    (within.1 ++ [.one created.1], created.2)
  | .access a key, s => ([.one (s.access a key).1], (s.access a key).2)
  | .list contextId, s => ([.all (s.list contextId)], s)

def performAll : List Use → Store → List Answer × Store
  | [], s => ([], s)
  | u :: rest, s =>
    let first := perform u s
    let later := performAll rest first.2
    (first.1 ++ later.1, later.2)

end

-- ============================================================== account

/-- The state that each key has, if it has one, and the ids that were handed out. -/
structure Table where
  state? : SubscriptionKey → Option Bytes
  given : List String

namespace Table

/-- No key has a state, and no id was handed out. -/
def empty : Table := ⟨fun _ => none, []⟩

def give (id : String) (t : Table) : Table := { t with given := t.given ++ [id] }

def set (key : SubscriptionKey) (state : Option Bytes) (t : Table) : Table :=
  { t with state? := Function.update t.state? key state }

end Table

mutual

/-- What a use is answered and what it changes. -/
inductive Does : Table → Use → List Answer → Table → Prop
  /-- A creation adds the state that was built, under an id that was never handed out. -/
  | created {t t' : Table} {contextId id : String} {uses : String → List Use}
    {built : String → Outcome Bytes} {within : List Answer} {state : Bytes}
    (fresh : id ∉ t.given) (between : DoesAll (t.give id) (uses id) within t')
    (absent : t'.state? ⟨contextId, id⟩ = none) (succeeds : built id = .ok state) :
    Does t (.create contextId uses built)
      (within ++ [.one (.ok (SubscriptionKey.record ⟨contextId, id⟩ state))])
      (t'.set ⟨contextId, id⟩ (some state))
  /-- One that fails adds nothing. -/
  | failed {t t' : Table} {contextId id : String} {uses : String → List Use}
    {built : String → Outcome Bytes} {within : List Answer} {e : ProviderError}
    (fresh : id ∉ t.given) (between : DoesAll (t.give id) (uses id) within t')
    (fails : built id = .error e) :
    Does t (.create contextId uses built) (within ++ [.one (.error e)]) t'
  /-- Nothing is done to a key that is not there. -/
  | unknown {t : Table} {key : SubscriptionKey} (a : Access) (absent : t.state? key = none) :
    Does t (.access a key)
      [.one (.error (.unknownSubscription key.contextId key.subscriptionId))] t
  | read {t : Table} {key : SubscriptionKey} {state : Bytes}
    (present : t.state? key = some state) :
    Does t (.access .read key) [.one (.ok (key.record state))] t
  | updated {t : Table} {key : SubscriptionKey} {old : Bytes} (state : Bytes)
    (present : t.state? key = some old) :
    Does t (.access (.update state) key) [.one (.ok (key.record state))] (t.set key (some state))
  | deleted {t : Table} {key : SubscriptionKey} {last : Bytes}
    (present : t.state? key = some last) :
    Does t (.access .delete key) [.one (.ok (key.record last))] (t.set key none)
  /-- A context is listed in full, each record once, in the order of the ids. -/
  | listed {t : Table} {contextId : String} {records : List Subscription}
    (increasing : (records.map Subscription.subscriptionId).Pairwise (· < ·))
    (complete : ∀ record, record ∈ records ↔
      record.contextId = contextId ∧ t.state? record.key = some record.state) :
    Does t (.list contextId) [.all records] t

inductive DoesAll : Table → List Use → List Answer → Table → Prop
  | nil {t : Table} : DoesAll t [] [] t
  | cons {t t' t'' : Table} {u : Use} {rest : List Use} {first later : List Answer}
    (does : Does t u first t') (others : DoesAll t' rest later t'') :
    DoesAll t (u :: rest) (first ++ later) t''

end

-- ================================================================ order

/-- The ids that a store handed out, in order. -/
def given (s : Store) : List String := (List.range s.issued).map fun n => idText (n + 1)

/-- The account of a store. -/
def table (s : Store) : Table where
  state? key := (Dict.get? key s.live).map Subscription.state
  given := s.given

/-- The entries are in order, each record carries the ids that it is kept under, and these ids
were handed out. -/
structure Tidy (s : Store) : Prop where
  sorted : Dict.Sorted s.live
  keyed : ∀ e ∈ s.live, e.2.key = e.1
  given : ∀ key ∈ s.keys, key.subscriptionId ∈ s.given

theorem tidy_empty : Tidy empty where
  sorted := .nil
  keyed := fun _ he => absurd he List.not_mem_nil
  given := fun _ hkey => absurd hkey List.not_mem_nil

variable {s s' s'' : Store}

/-- A key has a state if the record with its ids and that state is there. -/
theorem Tidy.state?_eq_some (h : s.Tidy) {key : SubscriptionKey} {state : Bytes} :
    s.table.state? key = some state ↔ Dict.get? key s.live = some (key.record state) := by
  change (Dict.get? key s.live).map _ = _ ↔ _
  rw [Option.map_eq_some_iff]
  constructor
  · rintro ⟨record, hfound, rfl⟩
    have hkey : record.key = key := h.keyed _ (Dict.mem_of_get? hfound)
    rw [hfound, ← hkey]
    rfl
  · exact fun hfound => ⟨_, hfound, rfl⟩

theorem read_eq_ok {contextId id : String} {record : Subscription} :
    s.read contextId id = .ok record ↔ Dict.get? ⟨contextId, id⟩ s.live = some record := by
  unfold read
  cases Dict.get? ⟨contextId, id⟩ s.live with
  | none => simp
  | some other => simp

theorem state?_eq_none {key : SubscriptionKey} :
    s.table.state? key = none ↔ key ∉ s.keys := by
  change (Dict.get? key s.live).map _ = none ↔ key ∉ Dict.keys s.live
  rw [Option.map_eq_none_iff, Dict.mem_keys, Option.eq_none_iff_forall_ne_some, not_exists]

/-- What is done under one key sets the state of that key. -/
theorem table_of_live {key : SubscriptionKey} {state : Option Bytes}
    {live : Dict SubscriptionKey Subscription}
    (hself : (Dict.get? key live).map Subscription.state = state)
    (hothers : ∀ k, k ≠ key → Dict.get? k live = Dict.get? k s.live) :
    table { s with live } = s.table.set key state := by
  unfold table Table.set
  congr 1
  funext k
  by_cases hk : k = key
  · subst hk
    rw [hself, Function.update_self]
  · rw [hothers k hk, Function.update_of_ne hk]

/-- Of two stores one was reached from the other: ids stay handed out, and keys of such ids do not
come back. -/
structure Follows (s s' : Store) : Prop where
  given : ∀ id ∈ s.given, id ∈ s'.given
  absent : ∀ key, key.subscriptionId ∈ s.given → key ∉ s.keys → key ∉ s'.keys

theorem Follows.refl (s : Store) : Follows s s := ⟨fun _ h => h, fun _ _ h => h⟩

theorem Follows.trans (h : Follows s s') (h' : Follows s' s'') : Follows s s'' where
  given id hid := h'.given id (h.given id hid)
  absent key hid hkey := h'.absent key (h.given _ hid) (h.absent key hid hkey)

-- ============================================================ reserving

theorem given_reserve (s : Store) : s.reserve.2.given = s.given ++ [s.reserve.1] := by
  change (List.range (s.issued + 1)).map _ = _
  rw [List.range_succ, List.map_append]
  rfl

/-- The next id was never handed out. -/
theorem reserve_not_mem_given (s : Store) : s.reserve.1 ∉ s.given := by
  intro hmem
  obtain ⟨n, hn, hid⟩ := List.mem_map.1 hmem
  have hlast : n + 1 = s.issued + 1 := idText_inj hid
  have hlt := List.mem_range.1 hn
  omega

theorem table_reserve (s : Store) : s.reserve.2.table = s.table.give s.reserve.1 := by
  rw [table, given_reserve]
  rfl

theorem follows_reserve (s : Store) : Follows s s.reserve.2 where
  given id hid := by
    rw [given_reserve]
    exact List.mem_append_left _ hid
  absent _ _ hkey := hkey

theorem Tidy.reserve (h : s.Tidy) : s.reserve.2.Tidy where
  sorted := h.sorted
  keyed := h.keyed
  given key hkey := (follows_reserve s).given _ (h.given key hkey)

-- ============================================================= settling

theorem table_insert (key : SubscriptionKey) (state : Bytes) :
    table { s with live := Dict.insert key (key.record state) s.live }
      = s.table.set key (some state) := by
  refine table_of_live ?_ fun k hk => Dict.get?_insert_of_ne hk ..
  rw [Dict.get?_insert_self]
  rfl

theorem Tidy.insert (h : s.Tidy) {key : SubscriptionKey} (hid : key.subscriptionId ∈ s.given)
    (state : Bytes) : Tidy { s with live := Dict.insert key (key.record state) s.live } where
  sorted := Dict.sorted_insert _ _ h.sorted
  keyed e he := by
    rcases Dict.mem_insert he with rfl | he
    · rfl
    · exact h.keyed e he
  given k hk := by
    obtain ⟨e, he, rfl⟩ := List.mem_map.1 hk
    rcases Dict.mem_insert he with rfl | he
    · exact hid
    · exact h.given e.1 (List.mem_map_of_mem he)

/-- To put in a key whose id is new brings no key back. -/
theorem Follows.insert (h : Follows s s') {key : SubscriptionKey}
    (hfresh : key.subscriptionId ∉ s.given) (state : Bytes) :
    Follows s { s' with live := Dict.insert key (key.record state) s'.live } where
  given := h.given
  absent k hid hk hmem := by
    obtain ⟨e, he, rfl⟩ := List.mem_map.1 hmem
    rcases Dict.mem_insert he with rfl | he
    · exact hfresh hid
    · exact h.absent e.1 hid hk (List.mem_map_of_mem he)

/-- A creation hands out an id, does what its building does, and settles what that comes to. -/
theorem create_eq (s : Store) (contextId : String) (uses : String → List Use)
    (built : String → Outcome Bytes) :
    (s.create contextId fun id t => (built id, (performAll (uses id) t).2))
      = settle contextId s.reserve.1 (built s.reserve.1)
          (performAll (uses s.reserve.1) s.reserve.2).2 := rfl

-- =============================================================== access

theorem follows_access (a : Access) (key : SubscriptionKey) (s : Store) :
    Follows s (s.access a key).2 where
  given id hid := by
    unfold Store.given
    rw [issued_access]
    exact hid
  absent _ _ hkey hmem := hkey (mem_of_mem_keys_access hmem)

theorem Tidy.delete (h : s.Tidy) (key : SubscriptionKey) :
    Tidy { s with live := Dict.erase key s.live } where
  sorted := h.sorted.sublist (Dict.erase_sublist key s.live)
  keyed e he := h.keyed e ((Dict.erase_sublist key s.live).mem he)
  given k hk := h.given k (Dict.mem_keys_erase.1 hk).2

theorem table_erase (key : SubscriptionKey) :
    table { s with live := Dict.erase key s.live } = s.table.set key none := by
  refine table_of_live ?_ fun k hk => Dict.get?_erase_of_ne hk ..
  rw [Dict.get?_erase_self]
  rfl

/-- Access to a subscription is as the account has it, and leaves the store in order. -/
theorem Tidy.access (h : s.Tidy) (a : Access) (key : SubscriptionKey) :
    Does s.table (.access a key) [.one (s.access a key).1] (s.access a key).2.table ∧
      (s.access a key).2.Tidy := by
  cases hstate : s.table.state? key with
  | none =>
      rw [access_of_not_mem (state?_eq_none.1 hstate)]
      exact ⟨.unknown a hstate, h⟩
  | some state =>
      have hread : s.read key.contextId key.subscriptionId = .ok (key.record state) :=
        read_eq_ok.2 (h.state?_eq_some.1 hstate)
      cases a with
      | read =>
          rw [Store.access, hread]
          exact ⟨.read hstate, h⟩
      | update new =>
          have hlive : key ∈ s.keys := mem_keys_of_read hread
          rw [Store.access, Store.update, hread]
          refine ⟨?_, h.insert (h.given key hlive) new⟩
          have hdoes := Does.updated new hstate
          rw [← table_insert] at hdoes
          exact hdoes
      | delete =>
          rw [Store.access, Store.delete, hread]
          refine ⟨?_, h.delete key⟩
          have hdoes := Does.deleted hstate
          rw [← table_erase] at hdoes
          exact hdoes

-- ============================================================== listing

/-- What is listed increases by id: the keys do, and they are all of one context. -/
theorem Tidy.list_increasing (h : s.Tidy) (contextId : String) :
    ((s.list contextId).map Subscription.subscriptionId).Pairwise (· < ·) := by
  unfold list
  rw [List.pairwise_map, List.pairwise_filter, List.pairwise_map]
  refine (List.Pairwise.and_mem.1 h.sorted).imp ?_
  rintro e f ⟨he, hf, hlt⟩ hcontext hcontext'
  rw [← h.keyed e he, ← h.keyed f hf, SubscriptionKey.lt_iff] at hlt
  have hsame : e.2.contextId = f.2.contextId :=
    (of_decide_eq_true hcontext).trans (of_decide_eq_true hcontext').symm
  rcases hlt with hlt | ⟨-, hlt⟩
  · exact absurd hsame (Std.ne_of_lt hlt)
  · exact hlt

/-- What is listed is what is read in the context. -/
theorem Tidy.mem_list (h : s.Tidy) {contextId : String} {record : Subscription} :
    record ∈ s.list contextId ↔
      record.contextId = contextId ∧ s.read contextId record.subscriptionId = .ok record := by
  unfold list
  rw [List.mem_filter, decide_eq_true_eq, and_comm]
  refine and_congr_right ?_
  rintro rfl
  rw [read_eq_ok]
  change _ ↔ Dict.get? record.key s.live = some record
  constructor
  · intro hmem
    obtain ⟨e, he, rfl⟩ := List.mem_map.1 hmem
    rw [h.keyed e he]
    exact Dict.get?_of_sorted h.sorted he
  · exact fun hfound => List.mem_map_of_mem (Dict.mem_of_get? hfound)

theorem Tidy.does_list (h : s.Tidy) (contextId : String) :
    Does s.table (.list contextId) [.all (s.list contextId)] s.table := by
  refine .listed (h.list_increasing contextId) fun record => ?_
  rw [h.mem_list, h.state?_eq_some]
  refine and_congr_right ?_
  rintro rfl
  exact read_eq_ok

/-- Stores that read the same in a context list it the same. -/
theorem Tidy.list_eq (h : s.Tidy) (h' : s'.Tidy) {contextId : String}
    (hread : ∀ id, s'.read contextId id = s.read contextId id) :
    s'.list contextId = s.list contextId := by
  have hsorted := List.pairwise_map.1 (h.list_increasing contextId)
  have hsorted' := List.pairwise_map.1 (h'.list_increasing contextId)
  have hnodup : ∀ {records : List Subscription},
      records.Pairwise (fun a b => a.subscriptionId < b.subscriptionId) → records.Nodup :=
    fun hrecords => hrecords.imp fun hlt heq =>
      Std.ne_of_lt hlt (congrArg Subscription.subscriptionId heq)
  have hperm : (s'.list contextId).Perm (s.list contextId) := by
    rw [List.perm_ext_iff_of_nodup (hnodup hsorted') (hnodup hsorted)]
    intro record
    rw [h'.mem_list, h.mem_list, hread]
  refine hperm.eq_of_pairwise (fun a b _ _ hab hba => ?_) hsorted' hsorted
  exact absurd hab (Std.not_gt_of_lt hba)

-- ================================================================= runs

mutual

/-- Whatever a use comes to is as the account has it, and it leaves the store in order. -/
theorem does_perform : (u : Use) → {s : Store} → s.Tidy →
    Does s.table u (perform u s).1 (perform u s).2.table ∧
      (perform u s).2.Tidy ∧ Follows s (perform u s).2
  | .create contextId uses built, s, h => by
      obtain ⟨hbetween, htidy, hfollows⟩ := does_performAll (uses s.reserve.1) h.reserve
      have hgiven : s.reserve.1 ∈ s.reserve.2.given := by
        rw [given_reserve]
        exact List.mem_append_right _ (List.mem_singleton_self _)
      have hkey : (⟨contextId, s.reserve.1⟩ : SubscriptionKey) ∉ s.reserve.2.keys :=
        fun hlive => reserve_not_mem_given s (h.given _ hlive)
      -- the id is handed out before the uses in between, so they cannot bring its key in
      have habsent := hfollows.absent ⟨contextId, s.reserve.1⟩ hgiven hkey
      rw [table_reserve] at hbetween
      rw [perform, create_eq]
      cases hbuilt : built s.reserve.1 with
      | error e =>
          exact ⟨.failed (reserve_not_mem_given s) hbetween hbuilt, htidy,
            (follows_reserve s).trans hfollows⟩
      | ok state =>
          have hdoes : Does s.table (.create contextId uses built) _ _ := .created
            (reserve_not_mem_given s) hbetween (state?_eq_none.2 habsent) hbuilt
          rw [← table_insert] at hdoes
          exact ⟨hdoes, htidy.insert (hfollows.given _ hgiven) state,
            ((follows_reserve s).trans hfollows).insert (reserve_not_mem_given s) state⟩
  | .access a key, s, h => by
      obtain ⟨hdoes, htidy⟩ := h.access a key
      exact ⟨hdoes, htidy, follows_access a key s⟩
  | .list contextId, s, h => ⟨h.does_list contextId, h, .refl s⟩

theorem does_performAll : (uses : List Use) → {s : Store} → s.Tidy →
    DoesAll s.table uses (performAll uses s).1 (performAll uses s).2.table ∧
      (performAll uses s).2.Tidy ∧ Follows s (performAll uses s).2
  | [], s, h => ⟨.nil, h, .refl s⟩
  | u :: rest, s, h => by
      obtain ⟨hfirst, htidy, hfollows⟩ := does_perform u h
      obtain ⟨hlater, htidy', hfollows'⟩ := does_performAll rest htidy
      exact ⟨.cons hfirst hlater, htidy', hfollows.trans hfollows'⟩

end

-- ============================================================= contexts

/-- A use, with all the uses in it, is about one context. -/
inductive Use.Within (contextId : String) : Use → Prop
  | create {uses : String → List Use} {built : String → Outcome Bytes}
    (within : ∀ id, ∀ u ∈ uses id, Within contextId u) :
    Within contextId (.create contextId uses built)
  | access (a : Access) {key : SubscriptionKey} (same : key.contextId = contextId) :
    Within contextId (.access a key)
  | list : Within contextId (.list contextId)

mutual

/-- What is read in a context stays the same while another one is used. -/
theorem read_perform_of_ne : (u : Use) → {contextId : String} → u.Within contextId →
    (key : SubscriptionKey) → key.contextId ≠ contextId → (s : Store) →
      (perform u s).2.read key.contextId key.subscriptionId
        = s.read key.contextId key.subscriptionId
  | .create contextId uses built, _, .create hwithin, key, hne, s => by
      have hkey : key ≠ ⟨contextId, s.reserve.1⟩ := ne_of_apply_ne SubscriptionKey.contextId hne
      have hsettle := read_settle_of_ne hkey (built s.reserve.1)
        (performAll (uses s.reserve.1) s.reserve.2).2
      exact hsettle.trans
        (read_performAll_of_ne (uses s.reserve.1) (hwithin s.reserve.1) key hne s.reserve.2)
  | .access _ _, _, .access _ hsame, _, hne, s =>
      read_access_of_ne (ne_of_apply_ne SubscriptionKey.contextId (hsame ▸ hne)) s
  | .list _, _, .list, _, _, _ => rfl

theorem read_performAll_of_ne : (uses : List Use) → {contextId : String} →
    (∀ u ∈ uses, u.Within contextId) →
    (key : SubscriptionKey) → key.contextId ≠ contextId → (s : Store) →
      (performAll uses s).2.read key.contextId key.subscriptionId
        = s.read key.contextId key.subscriptionId
  | [], _, _, _, _, _ => rfl
  | u :: rest, _, hwithin, key, hne, s => by
      obtain ⟨hfirst, hrest⟩ := List.forall_mem_cons.1 hwithin
      exact (read_performAll_of_ne rest hrest key hne _).trans
        (read_perform_of_ne u hfirst key hne s)

end

/-- Whatever one caller does with a new store, one use after the other, in
any contexts and with whatever is used in between to build a subscription:
the answers are those of the plain account of keys and states, which the
store agrees with at the end. And from there no use that is about one
context changes what is read or listed in another. -/
theorem performAll_refines (uses : List Use) :
    DoesAll .empty uses (performAll uses empty).1 (performAll uses empty).2.table ∧
      ∀ u contextId, u.Within contextId → ∀ other, other ≠ contextId →
        (∀ id, (perform u (performAll uses empty).2).2.read other id
          = (performAll uses empty).2.read other id) ∧
        (perform u (performAll uses empty).2).2.list other
          = (performAll uses empty).2.list other := by
  obtain ⟨hdoes, htidy, -⟩ := does_performAll uses tidy_empty
  refine ⟨hdoes, fun u contextId hwithin other hne => ?_⟩
  have hread : ∀ id, (perform u (performAll uses empty).2).2.read other id
      = (performAll uses empty).2.read other id := fun id =>
    read_perform_of_ne u hwithin ⟨other, id⟩ hne _
  exact ⟨hread, htidy.list_eq (does_perform u htidy).2.1 hread⟩

/-- A subscription is created, and while it is built one of another context. -/
def demoUses : List Use :=
  [.create "acme" (fun id => [.access .read ⟨"acme", id⟩,
      .create "globex" (fun _ => []) fun _ => .ok .empty]) fun _ => .ok .empty,
    .access (.update (.mk #[1])) ⟨"acme", idText 1⟩]

theorem performAll_refines_demo :
    (Use.access .delete ⟨"acme", idText 1⟩).Within "acme" ∧
      (performAll demoUses empty).1
        = [.one (.error (.unknownSubscription "acme" (idText 1))),
          .one (.ok ⟨"globex", idText 2, .empty⟩), .one (.ok ⟨"acme", idText 1, .empty⟩),
          .one (.ok ⟨"acme", idText 1, .mk #[1]⟩)] ∧
      (perform (.access .delete ⟨"acme", idText 1⟩) (performAll demoUses empty).2).2.list "globex"
        = [⟨"globex", idText 2, .empty⟩] := by
  have hwithin : (Use.access .delete ⟨"acme", idText 1⟩).Within "acme" := .access _ rfl
  have happly := (performAll_refines demoUses).2 _ "acme" hwithin "globex" (by decide)
  exact ⟨hwithin, rfl, happly.2.trans rfl⟩

end Store

end ProviderLink
