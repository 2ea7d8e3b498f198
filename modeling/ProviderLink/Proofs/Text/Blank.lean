/-
What trimming leaves of a text: nothing exactly where there is nothing
but blanks (`trim_eq_nil`), and everything exactly where there is a blank
at neither end (`trim_eq_self`). A name that may be registered is both
more than blanks and trimmed, which is to say that it is not empty and
has a blank at neither end (`isTrimmed_iff`).
-/
import Mathlib.Data.List.DropRight
import ProviderLink.Text.Character

namespace ProviderLink.Text

/-- Trimming drops blanks on the left and then on the right. -/
theorem trim_eq (s : List Char) : trim s = (s.dropWhile isBlank).rdropWhile isBlank := rfl

/-- A text is all blanks if nothing is left of it without those at its ends. -/
theorem trim_eq_nil {s : String} : trim s.toList = [] ↔ allBlank s = true := by
  rw [trim_eq, List.rdropWhile_eq_nil_iff, ← List.dropWhile_eq_nil_iff,
    List.dropWhile_idempotent, List.dropWhile_eq_nil_iff, allBlank, List.all_eq_true]

/-- The first and the last character, if there are any, are no blanks. -/
def EndsUnblank (s : List Char) : Prop :=
  (∀ c ∈ s.head?, isBlank c = false) ∧ ∀ c ∈ s.getLast?, isBlank c = false

/-- A text that begins with a blank loses it. -/
theorem dropWhile_eq_self {s : List Char} :
    s.dropWhile isBlank = s ↔ ∀ c ∈ s.head?, isBlank c = false := by
  cases s with
  | nil => simp
  | cons c s =>
      rw [List.dropWhile_eq_self_iff]
      simp

/-- A text that ends in a blank loses it. -/
theorem rdropWhile_eq_self {s : List Char} :
    s.rdropWhile isBlank = s ↔ ∀ c ∈ s.getLast?, isBlank c = false := by
  rw [List.rdropWhile_eq_self_iff]
  by_cases hs : s = []
  · simp [hs]
  · simp [hs, List.getLast?_eq_getLast_of_ne_nil hs]

/-- A text is as it was after trimming if it has a blank at neither end. -/
theorem trim_eq_self {s : List Char} : trim s = s ↔ EndsUnblank s := by
  rw [trim_eq, EndsUnblank, ← dropWhile_eq_self, ← rdropWhile_eq_self]
  constructor
  · intro htrim
    -- nothing was dropped on the right, so nothing was on the left
    have hleft : s.dropWhile isBlank = s := by
      refine (List.dropWhile_suffix isBlank).eq_of_length_le ?_
      have hright := (List.rdropWhile_prefix isBlank (s.dropWhile isBlank)).length_le
      rw [htrim] at hright
      exact hright
    exact ⟨hleft, by rwa [hleft] at htrim⟩
  · rintro ⟨hleft, hright⟩
    rw [hleft, hright]

/-- A text that is more than blanks and trimmed is one that is not empty and has a blank at
neither end. -/
theorem isTrimmed_iff {s : String} :
    (allBlank s = false ∧ isTrimmed s = true) ↔ s ≠ "" ∧ EndsUnblank s.toList := by
  have htrimmed : isTrimmed s = true ↔ EndsUnblank s.toList := by
    rw [isTrimmed, beq_iff_eq, trim_eq_self]
  rw [htrimmed]
  refine and_congr_left fun hends => ?_
  have hblank : allBlank s = true ↔ s = "" := by
    rw [← trim_eq_nil, trim_eq_self.2 hends, String.toList_eq_nil_iff]
  rw [← Bool.not_eq_true, hblank]

end ProviderLink.Text
