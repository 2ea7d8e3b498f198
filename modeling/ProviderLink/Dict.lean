/-
Key-ordered association lists. Every table this library answers with —
an object's members, a schema's attributes, a registry's names, the
subscriptions of a store — is shown in increasing key order and holds a
key at most once, so one representation serves them all: the list of its
entries in that order.

The type is a plain list, because the inductive types of the library
nest through it and an inductive type may nest only through a literal
`List`. Nothing is lost: `insert` puts an entry at its place or replaces
the entry of the same key in one pass, so what a lookup finds after an
insertion holds of every list, ordered or not (`get?_insert_self`,
`get?_insert_of_ne`); and `Sorted`, which every operation keeps, is what
makes two tables with the same lookups the same list.
-/
namespace ProviderLink

/-- Entries in increasing key order, each key once. -/
abbrev Dict (κ α : Type) := List (κ × α)

namespace Dict

variable {κ α β : Type}

-- ========================================================= operations

/-- The value of the first entry with this key. -/
def get? [DecidableEq κ] (k : κ) : Dict κ α → Option α
  | [] => none
  | (k', v) :: rest => if k = k' then some v else get? k rest

/-- Puts an entry before the first larger key, or in place of its own. -/
def insert [LT κ] [DecidableLT κ] [DecidableEq κ] (k : κ) (v : α) : Dict κ α → Dict κ α
  | [] => [(k, v)]
  | (k', v') :: rest =>
    if k < k' then (k, v) :: (k', v') :: rest
    else if k = k' then (k, v) :: rest
    else (k', v') :: insert k v rest

/-- Drops the entries with this key. -/
def erase [DecidableEq κ] (k : κ) : Dict κ α → Dict κ α
  | [] => []
  | (k', v) :: rest => if k = k' then erase k rest else (k', v) :: erase k rest

/-- The keys in order. -/
def keys (d : Dict κ α) : List κ := d.map Prod.fst

/-- Whether the table has this key. -/
def has [DecidableEq κ] (k : κ) (d : Dict κ α) : Bool := (get? k d).isSome

/-- The same keys over other values. -/
def mapValues (f : α → β) (d : Dict κ α) : Dict κ β := d.map fun e => (e.1, f e.2)

/-- Every entry of the second list put into the first, so a later value of a key wins. -/
def insertAll [LT κ] [DecidableLT κ] [DecidableEq κ] (d : Dict κ α) (entries : List (κ × α)) :
    Dict κ α :=
  entries.foldl (fun d e => insert e.1 e.2 d) d

/-- The table of a list of entries; of two entries with one key the later wins. -/
def ofList [LT κ] [DecidableLT κ] [DecidableEq κ] (entries : List (κ × α)) : Dict κ α :=
  insertAll [] entries

/-- Keys strictly increase. -/
def Sorted [LT κ] (d : Dict κ α) : Prop := d.Pairwise fun a b => a.1 < b.1

instance [LT κ] [DecidableLT κ] (d : Dict κ α) : Decidable d.Sorted :=
  inferInstanceAs (Decidable (d.Pairwise fun a b => a.1 < b.1))

-- ===================================================== lookup equations

section Lookup

variable [DecidableEq κ]

@[simp] theorem get?_nil (k : κ) : get? k ([] : Dict κ α) = none := rfl

theorem get?_cons (k k' : κ) (v : α) (d : Dict κ α) :
    get? k ((k', v) :: d) = if k = k' then some v else get? k d := rfl

theorem get?_erase_self (k : κ) (d : Dict κ α) : get? k (erase k d) = none := by
  induction d with
  | nil => rfl
  | cons e d ih =>
    obtain ⟨k', v⟩ := e
    by_cases h : k = k'
    · simp [erase, h] at ih ⊢; simpa [h] using ih
    · simp [erase, h, get?_cons, ih]

theorem get?_erase_of_ne {k k' : κ} (h : k' ≠ k) (d : Dict κ α) :
    get? k' (erase k d) = get? k' d := by
  induction d with
  | nil => rfl
  | cons e d ih =>
    obtain ⟨j, v⟩ := e
    by_cases hj : k = j
    · subst hj; simp [erase, get?_cons, h, ih]
    · simp [erase, hj, get?_cons, ih]

variable [LT κ] [DecidableLT κ]

theorem get?_insert_self (k : κ) (v : α) (d : Dict κ α) : get? k (insert k v d) = some v := by
  induction d with
  | nil => simp [insert, get?_cons]
  | cons e d ih =>
    obtain ⟨k', v'⟩ := e
    rw [insert]
    split
    · simp [get?_cons]
    · split
      · simp [get?_cons]
      · next h => simp [get?_cons, h, ih]

theorem get?_insert_of_ne {k k' : κ} (h : k' ≠ k) (v : α) (d : Dict κ α) :
    get? k' (insert k v d) = get? k' d := by
  induction d with
  | nil => simp [insert, get?_cons, h]
  | cons e d ih =>
    obtain ⟨j, w⟩ := e
    rw [insert]
    split
    · simp [get?_cons, h]
    · split
      · next hj => subst hj; simp [get?_cons, h]
      · simp [get?_cons, ih]

end Lookup

end Dict

end ProviderLink
