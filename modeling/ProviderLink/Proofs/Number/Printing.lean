/-
What numbers are written with: digits, and the few marks of a sign, a
point and an exponent. The digits of a double are those of some natural
number, however many of them the search for the shortest keeps.
-/
import ProviderLink.Proofs.Number.Numeral

namespace ProviderLink

/-- A character that numbers are written with. -/
def Number.IsMark (c : Char) : Prop :=
  c.isDigit = true ∨ c = '-' ∨ c = '+' ∨ c = '.' ∨ c = 'e'

/-- A decimal has digits. -/
def Decimal.Digital (d : Decimal) : Prop := ∀ c ∈ d.digits, c.isDigit = true

/-- The digits of a scaled number are digits. -/
theorem Decimal.digital_ofScaled (n : Nat) (shift : Int) : (ofScaled n shift).Digital := by
  intro c hc
  have hdrop := List.mem_reverse.1 (show c ∈ (List.dropWhile (· == '0')
    (Nat.toDigits 10 n).reverse).reverse from hc)
  have hmem := (List.dropWhile_sublist _).mem hdrop
  exact Number.Numeral.isDigit_toDigits n c (List.mem_reverse.1 hmem)

/-- So are those of the shortest decimal. -/
theorem Binary64.digital_shortest (units : Nat) : (shortest units).Digital := by
  have hgrid : ∀ shift d, onGrid? units shift = some d → d.Digital := by
    intro shift d h
    unfold onGrid? at h
    obtain ⟨n, twice, one⟩ := below units shift
    dsimp only at h
    split at h
    · split at h
      · cases h; exact Decimal.digital_ofScaled _ _
      · split at h
        · cases h; exact Decimal.digital_ofScaled _ _
        · cases h
    · split at h
      · cases h; exact Decimal.digital_ofScaled _ _
      · split at h
        · cases h; exact Decimal.digital_ofScaled _ _
        · cases h
  unfold shortest
  dsimp only
  cases hfind : List.findSome? (onGrid? units)
      ((List.range 17).map fun (n : Nat) => decimalExponent units - (n : Int)) with
  | none => exact Decimal.digital_ofScaled _ _
  | some d =>
      obtain ⟨shift, -, hshift⟩ := List.exists_of_findSome?_eq_some hfind
      exact hgrid shift d hshift

namespace Number

theorem isMark_digit {c : Char} (h : c.isDigit = true) : IsMark c := Or.inl h

/-- A decimal is written with marks. -/
theorem isMark_decimalChars {d : Decimal} (h : d.Digital) :
    ∀ c ∈ decimalChars d, IsMark c := by
  have hdigits : ∀ c ∈ d.digits, IsMark c := fun c hc => isMark_digit (h c hc)
  have htake : ∀ {n c}, c ∈ d.digits.take n → IsMark c := fun hc =>
    hdigits _ (List.mem_of_mem_take hc)
  have hdrop : ∀ {n c}, c ∈ d.digits.drop n → IsMark c := fun hc =>
    hdigits _ (List.mem_of_mem_drop hc)
  have hzeros : ∀ {n c}, c ∈ List.replicate n '0' → IsMark c := fun hc =>
    (List.eq_of_mem_replicate hc) ▸ isMark_digit (by decide)
  have hzero : IsMark '0' := isMark_digit (by decide)
  have hpoint : IsMark '.' := Or.inr (Or.inr (Or.inr (Or.inl rfl)))
  intro c hc
  simp only [decimalChars] at hc
  split at hc
  · split at hc
    · simp only [List.mem_append, List.mem_cons, List.not_mem_nil, or_false] at hc
      rcases hc with (hc | hc) | rfl | rfl
      · exact hdigits c hc
      · exact hzeros hc
      · exact hpoint
      · exact hzero
    · simp only [List.mem_append, List.mem_cons, List.not_mem_nil, or_false] at hc
      rcases hc with (hc | rfl) | hc
      · exact htake hc
      · exact hpoint
      · exact hdrop hc
  · split at hc
    · simp only [List.mem_append, List.mem_cons, List.not_mem_nil, or_false] at hc
      rcases hc with ((rfl | rfl) | hc) | hc
      · exact hzero
      · exact hpoint
      · exact hzeros hc
      · exact hdigits c hc
    · simp only [List.mem_append, List.mem_cons, List.not_mem_nil, or_false] at hc
      rcases hc with ((hc | hc) | rfl | rfl) | hc
      · exact htake hc
      · split at hc
        · cases hc
        · rcases List.mem_cons.1 hc with rfl | hc
          · exact hpoint
          · exact hdrop hc
      · exact Or.inr (Or.inr (Or.inr (Or.inr rfl)))
      · split
        · exact Or.inr (Or.inl rfl)
        · exact Or.inr (Or.inr (Or.inl rfl))
      · exact isMark_digit (Numeral.isDigit_toDigits _ c hc)

/-- A number is written with marks. -/
theorem isMark_chars (n : Number) : ∀ c ∈ n.chars, IsMark c := by
  have hsign : ∀ {p : Prop} [Decidable p] {c}, c ∈ (if p then ['-'] else []) → IsMark c := by
    intro p _ c hc
    split at hc
    · exact Or.inr (Or.inl (List.mem_singleton.1 hc))
    · cases hc
  intro c hc
  cases n with
  | int i h =>
      rcases List.mem_append.1 hc with hc | hc
      · exact hsign hc
      · exact isMark_digit (Numeral.isDigit_toDigits _ c hc)
  | float x =>
      rcases List.mem_append.1 hc with hc | hc
      · exact hsign hc
      · split at hc
        · simp only [List.mem_cons, List.not_mem_nil, or_false] at hc
          rcases hc with rfl | rfl | rfl
          · exact isMark_digit (by decide)
          · exact Or.inr (Or.inr (Or.inr (Or.inl rfl)))
          · exact isMark_digit (by decide)
        · exact isMark_decimalChars (Binary64.digital_shortest _) c hc

/-- A number is written with something. -/
theorem chars_ne_nil (n : Number) : n.chars ≠ [] := by
  have hdecimal : ∀ d, decimalChars d ≠ [] := by
    intro d
    simp only [decimalChars]
    split
    · split <;> simp
    · split <;> simp
  cases n with
  | int i h => exact List.append_ne_nil_of_right_ne_nil _ Nat.toDigits_ne_nil
  | float x =>
      refine List.append_ne_nil_of_right_ne_nil _ ?_
      split
      · exact List.cons_ne_nil _ _
      · exact hdecimal _

/-- A mark is no control character. -/
theorem IsMark.le {c : Char} (h : IsMark c) : 0x20 ≤ c.toNat := by
  rcases h with h | rfl | rfl | rfl | rfl
  · have hzero : '0'.toNat = 48 := rfl
    have hdigit := Char.isDigit_iff_toNat.1 h
    omega
  · decide
  · decide
  · decide
  · decide

end Number

end ProviderLink
