/-
The order layer of tables. `insert` keeps a sorted table sorted, so a
table built from any list of entries is sorted (`sorted_ofList`); a list
that is sorted already is its own table (`ofList_of_sorted`). Between
the two, a list without a repeated key answers every lookup as its table
does (`get?_ofList`), which is what lets the record readers speak of the
members as they were written and never of where sorting put them.

Keys are ordered linearly throughout; strings are the instance that the
library uses.
-/
import ProviderLink.Dict

namespace ProviderLink.Dict

variable {κ α β : Type}

-- ============================================================== lookup

section Lookup

variable [DecidableEq κ]

/-- What a lookup finds is an entry. -/
theorem mem_of_get? {k : κ} {v : α} {d : Dict κ α} (h : get? k d = some v) :
    (k, v) ∈ d := by
  induction d with
  | nil => cases h
  | cons e d ih =>
      obtain ⟨k', v'⟩ := e
      rw [get?_cons] at h
      split at h
      case isTrue hk =>
        cases h
        rw [hk]
        exact List.mem_cons_self ..
      case isFalse => exact List.mem_cons_of_mem _ (ih h)

/-- An entry is found, where no key is repeated. -/
theorem get?_of_mem {k : κ} {v : α} {d : Dict κ α} (h : (keys d).Nodup)
    (hm : (k, v) ∈ d) : get? k d = some v := by
  induction d with
  | nil => exact absurd hm List.not_mem_nil
  | cons e d ih =>
      obtain ⟨k', v'⟩ := e
      obtain ⟨hfresh, hrest⟩ := List.nodup_cons.1 h
      rw [get?_cons]
      rcases List.mem_cons.1 hm with heq | hm
      · cases heq
        rw [if_pos rfl]
      · have hk : k ∈ keys d := List.mem_map_of_mem hm
        have hne : k ≠ k' := fun heq => hfresh (heq ▸ hk)
        rw [if_neg hne, ih hrest hm]

theorem has_iff {k : κ} {d : Dict κ α} : has k d ↔ ∃ v, get? k d = some v :=
  Option.isSome_iff_exists

/-- A key that no entry has is not found. -/
theorem get?_eq_none {k : κ} {d : Dict κ α} (h : k ∉ keys d) :
    get? k d = none := by
  cases hk : get? k d with
  | none => rfl
  | some v => exact absurd (List.mem_map_of_mem (mem_of_get? hk)) h

end Lookup

@[simp] theorem keys_nil : keys ([] : Dict κ α) = [] := rfl

@[simp] theorem keys_cons (k : κ) (v : α) (d : Dict κ α) :
    keys ((k, v) :: d) = k :: keys d := by
  rw [keys, List.map_cons]
  rfl

/-- Erasing a key takes away that key alone. -/
theorem mem_keys_erase [DecidableEq κ] {k k' : κ} {d : Dict κ α} :
    k' ∈ keys (erase k d) ↔ k' ≠ k ∧ k' ∈ keys d := by
  induction d with
  | nil => simp [erase]
  | cons e d ih =>
      obtain ⟨j, v⟩ := e
      rw [erase]
      split
      case isTrue hj =>
        subst hj
        rw [ih, keys_cons, List.mem_cons]
        exact and_congr_right fun hne => (or_iff_right hne).symm
      case isFalse hj =>
        rw [keys_cons, keys_cons, List.mem_cons, List.mem_cons, ih, and_or_left]
        refine or_congr_left ?_
        exact (and_iff_right_of_imp fun heq => heq ▸ Ne.symm hj).symm

/-- Erasing a key leaves the other entries in their order. -/
theorem erase_sublist [DecidableEq κ] (k : κ) (d : Dict κ α) : (erase k d).Sublist d := by
  induction d with
  | nil => exact .slnil
  | cons e d ih =>
      obtain ⟨k', v⟩ := e
      rw [erase]
      split
      case isTrue => exact ih.cons _
      case isFalse => exact ih.cons_cons _

/-- The keys are those that a lookup finds. -/
theorem mem_keys [DecidableEq κ] {k : κ} {d : Dict κ α} :
    k ∈ keys d ↔ ∃ v, get? k d = some v := by
  induction d with
  | nil => simp
  | cons e d ih =>
      obtain ⟨k', v⟩ := e
      rw [keys_cons, List.mem_cons, ih, get?_cons]
      by_cases hk : k = k'
      · simp [hk]
      · simp [hk]

theorem has_iff_mem_keys [DecidableEq κ] {k : κ} {d : Dict κ α} :
    has k d ↔ k ∈ keys d := by
  rw [has_iff, mem_keys]

/-- Values that a map computes from key and value. -/
theorem get?_map [DecidableEq κ] (f : κ → α → β) (k : κ) (d : Dict κ α) :
    get? k (d.map fun e => (e.1, f e.1 e.2)) = (get? k d).map (f k) := by
  induction d with
  | nil => rfl
  | cons e d ih =>
      obtain ⟨k', v⟩ := e
      rw [List.map_cons, get?_cons, get?_cons, ih]
      split
      case isTrue hk => rw [hk, Option.map_some]
      case isFalse => rfl

theorem get?_mapValues [DecidableEq κ] (f : α → β) (k : κ) (d : Dict κ α) :
    get? k (mapValues f d) = (get? k d).map f :=
  get?_map (fun _ => f) k d

theorem keys_mapValues (f : α → β) (d : Dict κ α) :
    keys (mapValues f d) = keys d := by
  unfold keys mapValues
  rw [List.map_map]
  rfl

-- =================================================== entries of tables

section Entries

variable [LT κ] [DecidableLT κ] [DecidableEq κ]

/-- An entry of a table after an insertion is the new one or was there. -/
theorem mem_insert {k : κ} {v : α} {e : κ × α} {d : Dict κ α}
    (h : e ∈ insert k v d) : e = (k, v) ∨ e ∈ d := by
  induction d with
  | nil => exact Or.inl (List.mem_singleton.1 h)
  | cons e' d ih =>
      obtain ⟨k', v'⟩ := e'
      rw [insert] at h
      split at h
      · exact List.mem_cons.1 h
      · split at h
        · exact (List.mem_cons.1 h).imp id (List.mem_cons_of_mem _)
        · rcases List.mem_cons.1 h with rfl | h
          · exact Or.inr (List.mem_cons_self ..)
          · exact (ih h).imp id (List.mem_cons_of_mem _)

/-- The insertion of a key that is not there adds its entry and takes none away. -/
theorem get?_insert_eq_some {k k' : κ} {v w : α} {d : Dict κ α} (h : has k d = false) :
    get? k' (insert k v d) = some w ↔ get? k' d = some w ∨ k' = k ∧ w = v := by
  by_cases hk : k' = k
  · subst hk
    have hnone : get? k' d = none := by
      rw [has, Option.isSome_eq_false_iff, Option.isNone_iff_eq_none] at h
      exact h
    rw [get?_insert_self, hnone]
    simp [eq_comm]
  · rw [get?_insert_of_ne hk]
    exact (or_iff_left fun heq => hk heq.1).symm

/-- Insertions of other keys change no lookup. -/
theorem get?_insertAll_of_not_mem {k : κ} {entries : List (κ × α)}
    (h : k ∉ keys entries) :
    ∀ d : Dict κ α, get? k (insertAll d entries) = get? k d := by
  induction entries with
  | nil => exact fun _ => rfl
  | cons e entries ih =>
      intro d
      have hk : k ≠ e.1 := fun heq => h (heq ▸ List.mem_cons_self ..)
      have hrest : k ∉ keys entries := fun hm => h (List.mem_cons_of_mem _ hm)
      have hstep : insertAll d (e :: entries)
          = insertAll (insert e.1 e.2 d) entries := rfl
      rw [hstep, ih hrest, get?_insert_of_ne hk]

/-- Entries without a repeated key are all found, and shadow what was
there before. -/
theorem get?_insertAll {entries : List (κ × α)} (h : (keys entries).Nodup)
    (k : κ) : ∀ d : Dict κ α,
      get? k (insertAll d entries) = (get? k entries).or (get? k d) := by
  induction entries with
  | nil => exact fun _ => rfl
  | cons e entries ih =>
      intro d
      obtain ⟨k', v⟩ := e
      obtain ⟨hfresh, hrest⟩ := List.nodup_cons.1 h
      have hstep : insertAll d ((k', v) :: entries)
          = insertAll (insert k' v d) entries := rfl
      rw [hstep, get?_cons]
      by_cases hk : k = k'
      · subst hk
        rw [get?_insertAll_of_not_mem hfresh, get?_insert_self, if_pos rfl]
        rfl
      · rw [ih hrest, get?_insert_of_ne hk, if_neg hk]

/-- Entries without a repeated key answer lookups as their table does. -/
theorem get?_ofList {entries : List (κ × α)} (h : (keys entries).Nodup)
    (k : κ) : get? k (ofList entries) = get? k entries := by
  unfold ofList
  rw [get?_insertAll h, get?_nil, Option.or_none]

/-- Of two lists of entries in a row the second shadows the first. -/
theorem get?_ofList_append {xs ys : List (κ × α)} (hx : (keys xs).Nodup)
    (hy : (keys ys).Nodup) (k : κ) :
    get? k (ofList (xs ++ ys)) = (get? k ys).or (get? k xs) := by
  have happend : ofList (xs ++ ys) = insertAll (ofList xs) ys := List.foldl_append
  rw [happend, get?_insertAll hy, get?_ofList hx]

/-- A table has no entry that was not in the list. -/
theorem mem_of_mem_insertAll {e : κ × α} {entries : List (κ × α)} :
    ∀ {d : Dict κ α}, e ∈ insertAll d entries → e ∈ entries ∨ e ∈ d := by
  induction entries with
  | nil => exact fun h => Or.inr h
  | cons e' entries ih =>
      intro d h
      rcases ih h with h | h
      · exact Or.inl (List.mem_cons_of_mem _ h)
      · rcases mem_insert h with rfl | h
        · exact Or.inl (List.mem_cons_self ..)
        · exact Or.inr h

theorem mem_of_mem_ofList {e : κ × α} {entries : List (κ × α)}
    (h : e ∈ ofList entries) : e ∈ entries :=
  (mem_of_mem_insertAll h).resolve_right List.not_mem_nil

/-- A new key is one more entry. -/
theorem perm_insert {k : κ} (v : α) {d : Dict κ α} (h : k ∉ keys d) :
    (insert k v d).Perm ((k, v) :: d) := by
  induction d with
  | nil => exact .refl _
  | cons e d ih =>
      obtain ⟨k', v'⟩ := e
      obtain ⟨hne, hrest⟩ := not_or.1 (mt List.mem_cons.2 h)
      have hother : k ≠ k' := hne
      rw [insert, if_neg hother]
      split
      case isTrue => exact .refl _
      case isFalse => exact ((ih hrest).cons _).trans (.swap ..)

/-- Entries without a repeated key are the entries of their table, in another order. -/
theorem perm_ofList {entries : List (κ × α)} (h : (keys entries).Nodup) :
    (ofList entries).Perm entries := by
  have hall : ∀ (rest : List (κ × α)) {d : Dict κ α}, (keys (d ++ rest)).Nodup →
      (insertAll d rest).Perm (d ++ rest) := by
    intro rest
    induction rest with
    | nil => exact fun _ => .of_eq (List.append_nil _).symm
    | cons e rest ih =>
        intro d hkeys
        have hmiddle : (keys (d ++ e :: rest)).Perm (keys (e :: d ++ rest)) :=
          List.perm_middle.map _
        have hnodup := hmiddle.nodup_iff.1 hkeys
        have hfresh : e.1 ∉ keys d := fun hmem =>
          (List.nodup_cons.1 hnodup).1 (List.map_append ▸ List.mem_append_left _ hmem)
        have hput : (insert e.1 e.2 d ++ rest).Perm (e :: d ++ rest) :=
          (perm_insert e.2 hfresh).append_right rest
        have hstep : insertAll d (e :: rest) = insertAll (insert e.1 e.2 d) rest := rfl
        rw [hstep]
        exact (ih ((hput.map _).nodup_iff.2 hnodup)).trans (hput.trans List.perm_middle.symm)
  exact hall entries h

end Entries

-- ========================================================== sortedness

section Sorted

variable [LT κ]

/-- Only the keys decide whether a table is sorted. -/
theorem sorted_iff_keys {d : Dict κ α} :
    Sorted d ↔ (keys d).Pairwise (· < ·) := by
  unfold Sorted keys
  rw [List.pairwise_map]

/-- A change of values keeps the order. -/
theorem sorted_mapValues (f : α → β) {d : Dict κ α} :
    Sorted (mapValues f d) ↔ Sorted d := by
  rw [sorted_iff_keys, sorted_iff_keys, keys_mapValues]

variable [LE κ] [Std.LawfulOrderLT κ]

theorem nodup_keys {d : Dict κ α} (h : Sorted d) : (keys d).Nodup :=
  (sorted_iff_keys.1 h).imp fun hlt => Std.ne_of_lt hlt

/-- Every entry of a sorted table is found. -/
theorem get?_of_sorted [DecidableEq κ] {d : Dict κ α} (h : Sorted d) {e : κ × α}
    (he : e ∈ d) : get? e.1 d = some e.2 :=
  get?_of_mem (nodup_keys h) he

/-- Sorted tables with the same entries are the same table: a strict order leaves one way to list
them. -/
theorem eq_of_perm {d d' : Dict κ α} (h : Sorted d) (h' : Sorted d') (hperm : d.Perm d') :
    d = d' := by
  refine hperm.eq_of_pairwise (fun a b _ _ hab hba => ?_) h h'
  exact absurd hab (Std.not_gt_of_lt hba)

/-- So are sorted tables with the same lookups, as they have the same entries. -/
theorem eq_of_get? [DecidableEq κ] {d d' : Dict κ α}
    (h : Sorted d) (h' : Sorted d') (hget : ∀ k, get? k d = get? k d') :
    d = d' := by
  have hmem : ∀ {c c' : Dict κ α}, Sorted c → (∀ k, get? k c = get? k c') →
      ∀ e ∈ c, e ∈ c' := by
    intro c c' hc hcc e he
    have hfound : get? e.1 c' = some e.2 := hcc e.1 ▸ get?_of_sorted hc he
    exact mem_of_get? hfound
  have hnodup : ∀ {c : Dict κ α}, Sorted c → c.Nodup := fun hc =>
    hc.imp fun hlt heq => Std.ne_of_lt hlt (congrArg Prod.fst heq)
  have hperm : d.Perm d' := by
    rw [List.perm_ext_iff_of_nodup (hnodup h) (hnodup h')]
    exact fun e => ⟨hmem h hget e, hmem h' (fun k => (hget k).symm) e⟩
  exact eq_of_perm h h' hperm

/-- A table with the keys of a sorted one, and at each of them what a function makes of the value
there, is that table with its values changed. -/
theorem eq_mapValues [DecidableEq κ] {f : α → β} {d : Dict κ α} {d' : Dict κ β} (h : Sorted d)
    (hkeys : keys d' = keys d)
    (hvalues : ∀ k v w, get? k d = some v → get? k d' = some w → w = f v) :
    d' = mapValues f d := by
  have h' : Sorted d' := by
    rw [sorted_iff_keys, hkeys, ← sorted_iff_keys]
    exact h
  refine eq_of_get? h' ((sorted_mapValues f).2 h) fun k => ?_
  have hkey : (∃ w, get? k d' = some w) ↔ ∃ v, get? k d = some v := by
    rw [← mem_keys, ← mem_keys, hkeys]
  rw [get?_mapValues]
  cases hv : get? k d with
  | some v =>
      obtain ⟨w, hw⟩ := hkey.2 ⟨v, hv⟩
      rw [hw, hvalues k v w hv hw, Option.map_some]
  | none =>
      rw [Option.map_none, Option.eq_none_iff_forall_ne_some]
      intro w hw
      obtain ⟨v, hfound⟩ := hkey.1 ⟨w, hw⟩
      cases hv.symm.trans hfound

variable [DecidableLT κ] [DecidableEq κ]

/-- A key beyond all others goes to the end. -/
theorem insert_of_last {k : κ} (v : α) {d : Dict κ α} (h : ∀ e ∈ d, e.1 < k) :
    insert k v d = d ++ [(k, v)] := by
  induction d with
  | nil => rfl
  | cons e d ih =>
      obtain ⟨k', v'⟩ := e
      have hlt : k' < k := h _ (List.mem_cons_self ..)
      rw [insert, if_neg (Std.not_gt_of_lt hlt), if_neg (Std.ne_of_lt hlt).symm,
        ih fun e he => h e (List.mem_cons_of_mem _ he)]
      rfl

/-- Sorted entries put behind smaller ones stay as they are. -/
theorem insertAll_of_sorted {entries : List (κ × α)} :
    ∀ {d : Dict κ α}, Sorted (d ++ entries) →
      insertAll d entries = d ++ entries := by
  induction entries with
  | nil => exact fun _ => (List.append_nil _).symm
  | cons e entries ih =>
      intro d h
      have hlast : ∀ e' ∈ d, e'.1 < e.1 := fun e' he' =>
        (List.pairwise_append.1 h).2.2 e' he' e (List.mem_cons_self ..)
      have hassoc : d ++ e :: entries = (d ++ [e]) ++ entries := by
        rw [List.append_assoc, List.singleton_append]
      have hstep : insertAll d (e :: entries) = insertAll (d ++ [e]) entries := by
        rw [← insert_of_last e.2 hlast]
        rfl
      rw [hassoc] at h ⊢
      rw [hstep, ih h]

/-- A sorted list of entries is its own table. -/
theorem ofList_of_sorted {d : Dict κ α} (h : Sorted d) : ofList d = d :=
  insertAll_of_sorted h

variable [Std.IsLinearOrder κ]

/-- Insertion keeps a table sorted. -/
theorem sorted_insert (k : κ) (v : α) {d : Dict κ α} (h : Sorted d) :
    Sorted (insert k v d) := by
  induction d with
  | nil => exact List.pairwise_singleton ..
  | cons e d ih =>
      obtain ⟨k', v'⟩ := e
      obtain ⟨hhead, htail⟩ := List.pairwise_cons.1 h
      rw [insert]
      split
      case isTrue hlt =>
        refine List.pairwise_cons.2 ⟨fun e he => ?_, h⟩
        rcases List.mem_cons.1 he with rfl | he
        · exact hlt
        · exact Std.lt_trans hlt (hhead e he)
      case isFalse hge =>
        split
        case isTrue heq =>
          subst heq
          exact List.pairwise_cons.2 ⟨hhead, htail⟩
        case isFalse hne =>
          have hgt : k' < k :=
            Std.lt_of_le_of_ne (Std.not_lt.1 hge) fun heq => hne heq.symm
          refine List.pairwise_cons.2 ⟨fun e he => ?_, ih htail⟩
          rcases mem_insert he with rfl | he
          · exact hgt
          · exact hhead e he

/-- Insertions keep a table sorted. -/
theorem sorted_insertAll (entries : List (κ × α)) :
    ∀ {d : Dict κ α}, Sorted d → Sorted (insertAll d entries) := by
  induction entries with
  | nil => exact fun h => h
  | cons e entries ih => exact fun h => ih (sorted_insert e.1 e.2 h)

theorem sorted_ofList (entries : List (κ × α)) : Sorted (ofList entries) :=
  sorted_insertAll entries List.Pairwise.nil

/-- In whatever order the entries of a sorted table are listed, it is their table. -/
theorem ofList_of_perm {d : Dict κ α} (h : Sorted d) {entries : List (κ × α)}
    (hperm : entries.Perm d) : ofList entries = d := by
  have hkeys : (keys entries).Nodup := (hperm.map Prod.fst).nodup_iff.2 (nodup_keys h)
  exact eq_of_perm (sorted_ofList entries) h ((perm_ofList hkeys).trans hperm)

end Sorted

end ProviderLink.Dict
