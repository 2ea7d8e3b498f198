/-
The canonical form of a value: members in key order, the last of a name.
`canonical` delivers an ordered value whatever it is given
(`ordered_canonical`) and leaves an ordered value alone
(`canonical_of_ordered`); the two together make it idempotent, so a
value that has been through a text once looks the same after every
further time.

Names and depth come along: the members of a canonical object answer
lookups as those that were written, as long as no name was written twice
(`member?_canonical`), and nothing nests deeper than before
(`depth_canonical_le`).
-/
import ProviderLink.Json
import ProviderLink.Proofs.Dict

namespace ProviderLink.Json

-- ============================================================ scalars

@[simp] theorem canonical_null : null.canonical = null := by rw [canonical]

@[simp] theorem canonical_bool (b : Bool) : (bool b).canonical = bool b := by
  rw [canonical]

@[simp] theorem canonical_number (n : Number) : (number n).canonical = number n := by
  rw [canonical]

@[simp] theorem canonical_string (s : String) : (string s).canonical = string s := by
  rw [canonical]

-- ============================================================ members

theorem keys_canonicalMembers (members : List (String × Json)) :
    Dict.keys (canonicalMembers members) = Dict.keys members := by
  induction members with
  | nil => rfl
  | cons e members ih =>
      obtain ⟨k, v⟩ := e
      rw [canonicalMembers]
      exact congrArg (k :: ·) ih

/-- A member's value is in canonical form. -/
theorem get?_canonicalMembers (k : String) (members : List (String × Json)) :
    Dict.get? k (canonicalMembers members)
      = (Dict.get? k members).map canonical := by
  induction members with
  | nil => rfl
  | cons e members ih =>
      obtain ⟨k', v⟩ := e
      rw [canonicalMembers, Dict.get?_cons, Dict.get?_cons, ih]
      split <;> rfl

/-- The members of a canonical object, where no name was written twice. -/
theorem member?_canonical {members : List (String × Json)}
    (h : (Dict.keys members).Nodup) (k : String) :
    (canonical (object members)).member? k
      = (Dict.get? k members).map canonical := by
  rw [← get?_canonicalMembers]
  have hkeys : (Dict.keys (canonicalMembers members)).Nodup := by
    rw [keys_canonicalMembers]
    exact h
  simp only [canonical, member?]
  exact Dict.get?_ofList hkeys k

-- ============================================================= ordered

/-- Order inside a list of items, item by item. -/
theorem orderedItems_iff {items : List Json} :
    OrderedItems items ↔ ∀ v ∈ items, v.Ordered := by
  induction items with
  | nil => simp [OrderedItems]
  | cons v items ih =>
      rw [OrderedItems, ih, List.forall_mem_cons]

theorem orderedMembers_iff {members : List (String × Json)} :
    OrderedMembers members ↔ ∀ e ∈ members, e.2.Ordered := by
  induction members with
  | nil => simp [OrderedMembers]
  | cons e members ih =>
      obtain ⟨k, v⟩ := e
      rw [OrderedMembers, ih, List.forall_mem_cons]

mutual

/-- The canonical form is ordered. -/
theorem ordered_canonical : (v : Json) → (canonical v).Ordered
  | null => by simp only [canonical, Ordered]
  | bool _ => by simp only [canonical, Ordered]
  | number _ => by simp only [canonical, Ordered]
  | string _ => by simp only [canonical, Ordered]
  | array items => by
      simp only [canonical, Ordered]
      exact ordered_canonicalItems items
  | object members => by
      simp only [canonical, Ordered]
      refine ⟨Dict.sorted_ofList _, orderedMembers_iff.2 fun e he => ?_⟩
      exact orderedMembers_iff.1 (ordered_canonicalMembers members) e
        (Dict.mem_of_mem_ofList he)

theorem ordered_canonicalItems : (items : List Json) →
    OrderedItems (canonicalItems items)
  | [] => by simp only [canonicalItems, OrderedItems]
  | v :: rest => by
      simp only [canonicalItems, OrderedItems]
      exact ⟨ordered_canonical v, ordered_canonicalItems rest⟩

theorem ordered_canonicalMembers : (members : List (String × Json)) →
    OrderedMembers (canonicalMembers members)
  | [] => by simp only [canonicalMembers, OrderedMembers]
  | (_, v) :: rest => by
      simp only [canonicalMembers, OrderedMembers]
      exact ⟨ordered_canonical v, ordered_canonicalMembers rest⟩

end

mutual

/-- An ordered value is its own canonical form. -/
theorem canonical_of_ordered : (v : Json) → v.Ordered → canonical v = v
  | null, _ => by rw [canonical]
  | bool _, _ => by rw [canonical]
  | number _, _ => by rw [canonical]
  | string _, _ => by rw [canonical]
  | array items, h => by
      simp only [Ordered] at h
      rw [canonical, canonicalItems_of_ordered items h]
  | object members, h => by
      simp only [Ordered] at h
      rw [canonical, canonicalMembers_of_ordered members h.2,
        Dict.ofList_of_sorted h.1]

theorem canonicalItems_of_ordered : (items : List Json) →
    OrderedItems items → canonicalItems items = items
  | [], _ => by rw [canonicalItems]
  | v :: rest, h => by
      simp only [OrderedItems] at h
      rw [canonicalItems, canonical_of_ordered v h.1,
        canonicalItems_of_ordered rest h.2]

theorem canonicalMembers_of_ordered : (members : List (String × Json)) →
    OrderedMembers members → canonicalMembers members = members
  | [], _ => by rw [canonicalMembers]
  | (k, v) :: rest, h => by
      simp only [OrderedMembers] at h
      rw [canonicalMembers, canonical_of_ordered v h.1,
        canonicalMembers_of_ordered rest h.2]

end

/-- A value that has been put into canonical form stays as it is. -/
theorem canonical_canonical (v : Json) : canonical (canonical v) = canonical v :=
  canonical_of_ordered _ (ordered_canonical v)

/-- A sorted object whose values are as they are to be: only its values
change. -/
theorem canonical_object_of_sorted {members : List (String × Json)}
    (h : Dict.Sorted members) :
    canonical (object members) = object (canonicalMembers members) := by
  have hs : Dict.Sorted (canonicalMembers members) := by
    rw [Dict.sorted_iff_keys, keys_canonicalMembers]
    exact Dict.sorted_iff_keys.1 h
  rw [canonical, Dict.ofList_of_sorted hs]

/-- Members made of a table's values. -/
theorem canonicalMembers_mapValues {α : Type} (f : α → Json) (entries : Dict String α) :
    canonicalMembers (Dict.mapValues f entries)
      = Dict.mapValues (fun x => (f x).canonical) entries := by
  induction entries with
  | nil => rfl
  | cons e entries ih =>
      have hcons : Dict.mapValues f (e :: entries)
          = (e.1, f e.2) :: Dict.mapValues f entries := rfl
      rw [hcons, canonicalMembers, ih]
      rfl

/-- An object made of a sorted table. -/
theorem canonical_mapValues {α : Type} (f : α → Json) {entries : Dict String α}
    (h : Dict.Sorted entries) :
    canonical (object (Dict.mapValues f entries))
      = object (Dict.mapValues (fun x => (f x).canonical) entries) := by
  rw [canonical_object_of_sorted ((Dict.sorted_mapValues f).2 h),
    canonicalMembers_mapValues]

-- =============================================================== depth

/-- A bound on the depth of items, item by item. -/
theorem depthItems_le {items : List Json} {n : Nat} :
    depthItems items ≤ n ↔ ∀ v ∈ items, v.depth ≤ n := by
  induction items with
  | nil => simp [depthItems]
  | cons v items ih => rw [depthItems, Nat.max_le, ih, List.forall_mem_cons]

/-- A bound on the depth of members, member by member. -/
theorem depthMembers_le {members : List (String × Json)} {n : Nat} :
    depthMembers members ≤ n ↔ ∀ e ∈ members, e.2.depth ≤ n := by
  induction members with
  | nil => simp [depthMembers]
  | cons e members ih =>
      obtain ⟨k, v⟩ := e
      rw [depthMembers, Nat.max_le, ih, List.forall_mem_cons]

/-- A member nests less deep than its object. -/
theorem depth_lt_of_mem {members : List (String × Json)} {e : String × Json}
    (h : e ∈ members) : e.2.depth < (object members).depth := by
  rw [depth]
  exact Nat.lt_succ_of_le (depthMembers_le.1 (Nat.le_refl (depthMembers members)) e h)

/-- What is found under a name nests less deep than where it is found. -/
theorem depth_lt_of_member? {v w : Json} {k : String} (h : v.member? k = some w) :
    w.depth < v.depth := by
  cases v with
  | object members => exact depth_lt_of_mem (Dict.mem_of_get? h)
  | null | bool | number | string | array => cases h

mutual

/-- The canonical form nests no deeper. -/
theorem depth_canonical_le : (v : Json) → (canonical v).depth ≤ v.depth
  | null => by simp only [canonical, Nat.le_refl]
  | bool _ => by simp only [canonical, Nat.le_refl]
  | number _ => by simp only [canonical, Nat.le_refl]
  | string _ => by simp only [canonical, Nat.le_refl]
  | array items => by
      rw [canonical, depth, depth]
      exact Nat.succ_le_succ (depth_canonicalItems_le items)
  | object members => by
      rw [canonical, depth, depth]
      refine Nat.succ_le_succ (depthMembers_le.2 fun e he => ?_)
      exact depthMembers_le.1 (depth_canonicalMembers_le members) e
        (Dict.mem_of_mem_ofList he)

theorem depth_canonicalItems_le : (items : List Json) →
    depthItems (canonicalItems items) ≤ depthItems items
  | [] => by simp only [canonicalItems, Nat.le_refl]
  | v :: rest => by
      have hv := depth_canonical_le v
      have hrest := depth_canonicalItems_le rest
      rw [canonicalItems, depthItems, depthItems]
      omega

theorem depth_canonicalMembers_le : (members : List (String × Json)) →
    depthMembers (canonicalMembers members) ≤ depthMembers members
  | [] => by simp only [canonicalMembers, Nat.le_refl]
  | (_, v) :: rest => by
      have hv := depth_canonical_le v
      have hrest := depth_canonicalMembers_le rest
      rw [canonicalMembers, depthMembers, depthMembers]
      omega

end

end ProviderLink.Json
