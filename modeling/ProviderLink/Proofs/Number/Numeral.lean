/-
Numerals and the numbers they stand for. An integer reads back from its
text (`ofChars?_intChars`): its digits are taken for a whole part alone,
so neither a point nor an exponent turns it into a double, and a zero
never stands in front, which is where a numeral would be refused.

A double need not read back: its digits are absorbed one by one and then
scaled once, which may be off by a unit in the last place.
-/
import ProviderLink.Number

namespace ProviderLink.Number

namespace Numeral

-- ============================================================== digits

/-- Digits, at least one, are taken for digits. -/
theorem digits?_of_isDigit {cs : List Char} (hne : cs ≠ [])
    (h : ∀ c ∈ cs, c.isDigit = true) : digits? cs = some cs :=
  if_pos ⟨hne, List.all_eq_true.2 h⟩

theorem isDigit_toDigits (n : Nat) : ∀ c ∈ Nat.toDigits 10 n, c.isDigit = true :=
  fun _ hc => Nat.isDigit_of_mem_toDigits (by decide) (by decide) hc

/-- Digits stand for the number whose digits they are. -/
theorem digitsValue_toDigits (n : Nat) : digitsValue (Nat.toDigits 10 n) = n := by
  have h : digitsValue (Nat.toDigits 10 n)
      = Nat.ofDigitChars 10 (Nat.toDigits 10 n) 0 := rfl
  rw [h, Nat.ofDigitChars_ten_toDigits]

/-- The first digit of a number is zero only if the number is. -/
theorem head?_toDigits {n : Nat} (h : 0 < n) :
    (Nat.toDigits 10 n).head? ≠ some '0' := by
  induction n using Nat.strongRecOn with
  | _ n ih =>
      by_cases hn : n < 10
      · have hall : ∀ m, m < 10 → 0 < m → (Nat.toDigits 10 m).head? ≠ some '0' := by
          decide
        exact hall n hn h
      · have hdiv := ih (n / 10) (by omega) (by omega)
        obtain ⟨c, cs, hcs⟩ := List.exists_cons_of_ne_nil
          (Nat.toDigits_ne_nil (n := n / 10) (b := 10))
        rw [hcs] at hdiv
        rw [Nat.toDigits_of_base_le (by decide) (by omega), hcs]
        exact hdiv

/-- Digits of which the first is not zero are a whole part. -/
theorem whole?_of_head? {ds : List Char} (hds : digits? ds = some ds) (h : ds.head? ≠ some '0') :
    whole? ds = some ds := by
  have hzero : ¬(ds.head? = some '0' ∧ ds.length ≠ 1) := fun hc => h hc.1
  simp only [whole?, hds, Option.bind_eq_bind, Option.bind_some, if_neg hzero]

/-- The digits of a number are a whole part. -/
theorem whole?_toDigits (n : Nat) :
    whole? (Nat.toDigits 10 n) = some (Nat.toDigits 10 n) := by
  rcases Nat.eq_zero_or_pos n with rfl | hpos
  · rfl
  · exact whole?_of_head? (digits?_of_isDigit Nat.toDigits_ne_nil (isDigit_toDigits n))
      (head?_toDigits hpos)

-- =============================================================== parts

/-- What is digits is digits throughout. -/
theorem isDigit_of_digits? {cs ds : List Char} (h : digits? cs = some ds) :
    ds = cs ∧ ∀ c ∈ ds, c.isDigit = true := by
  unfold digits? at h
  split at h
  case isTrue hall =>
    cases h
    exact ⟨rfl, List.all_eq_true.1 hall.2⟩
  case isFalse => cases h

/-- So is a whole part. -/
theorem isDigit_of_whole? {cs ds : List Char} (h : whole? cs = some ds) :
    ds = cs ∧ ds ≠ [] ∧ ∀ c ∈ ds, c.isDigit = true := by
  obtain ⟨ds', hdigits, hhead⟩ := Option.bind_eq_some_iff.1 h
  obtain ⟨rfl, hall⟩ := isDigit_of_digits? hdigits
  split at hhead
  · cases hhead
  · cases hhead
    refine ⟨rfl, ?_, hall⟩
    rintro rfl
    cases hdigits

/-- What stands before a fraction, if there is one, and the fraction. -/
def pointed : Option (List Char) → List Char
  | none => []
  | some ds => '.' :: ds

/-- A text without its sign has these parts. -/
structure Writes (n : Numeral) (cs : List Char) : Prop where
  whole : whole? n.whole = some n.whole
  fraction : ∀ ds, n.fraction = some ds → digits? ds = some ds
  text : ∃ tail, cs = n.whole ++ pointed n.fraction ++ tail
    ∧ ((tail = [] ∧ n.exponent = none)
      ∨ ∃ es e, tail = 'e' :: es ∧ exponent? es = some e ∧ n.exponent = some e)

namespace Writes

variable {n : Numeral} {cs : List Char}

/-- Up to the exponent there are digits and a point. -/
theorem mem_body (h : n.Writes cs) :
    ∀ c ∈ n.whole ++ pointed n.fraction, c.isDigit = true ∨ c = '.' := by
  intro c hc
  rcases List.mem_append.1 hc with hc | hc
  · exact Or.inl ((isDigit_of_whole? h.whole).2.2 c hc)
  · cases hfraction : n.fraction with
    | none =>
        rw [hfraction] at hc
        cases hc
    | some ds =>
        rw [hfraction] at hc
        rcases List.mem_cons.1 hc with rfl | hc
        · exact Or.inr rfl
        · exact Or.inl ((isDigit_of_digits? (h.fraction ds hfraction)).2 c hc)

/-- Parts are found where they were written. -/
theorem unsigned? (h : n.Writes cs) : Numeral.unsigned? n.negative cs = some n := by
  obtain ⟨tail, rfl, htail⟩ := h.text
  have hexp : ∀ c ∈ n.whole ++ pointed n.fraction, (c != 'e' && c != 'E') = true := by
    intro c hc
    rw [Bool.and_eq_true, bne_iff_ne, bne_iff_ne]
    rcases h.mem_body c hc with hdigit | rfl
    · constructor <;> (rintro rfl; cases hdigit)
    · decide
  have hpoint : ∀ c ∈ n.whole, (c != '.') = true := by
    intro c hc
    rw [bne_iff_ne]
    rintro rfl
    cases (isDigit_of_whole? h.whole).2.2 _ hc
  have hmantissa : (n.whole ++ pointed n.fraction ++ tail).takeWhile
      (fun c => c != 'e' && c != 'E') = n.whole ++ pointed n.fraction := by
    rw [List.takeWhile_append_of_pos hexp]
    rcases htail with ⟨rfl, -⟩ | ⟨es, e, rfl, -⟩
    · rw [List.takeWhile_nil, List.append_nil]
    · rw [List.takeWhile_cons_of_neg (by decide), List.append_nil]
  have hwhole : (n.whole ++ pointed n.fraction).takeWhile (· != '.') = n.whole := by
    rw [List.takeWhile_append_of_pos hpoint]
    cases n.fraction with
    | none => rw [pointed, List.takeWhile_nil, List.append_nil]
    | some ds => rw [pointed, List.takeWhile_cons_of_neg (by decide), List.append_nil]
  have hfraction : (n.whole ++ pointed n.fraction).dropWhile (· != '.') = pointed n.fraction := by
    rw [List.dropWhile_append_of_pos hpoint]
    cases n.fraction with
    | none => rfl
    | some ds => rw [pointed, List.dropWhile_cons_of_neg (by decide)]
  unfold Numeral.unsigned?
  simp only [hmantissa, List.drop_left, hwhole, hfraction, h.whole]
  obtain ⟨negative, whole, fraction, exponent⟩ := n
  have hread := h.fraction
  cases fraction with
  | none =>
      rcases htail with ⟨rfl, hexponent⟩ | ⟨es, e, rfl, hes, hexponent⟩
      · cases hexponent
        rfl
      · cases hexponent
        simp only [hes, pointed]
        rfl
  | some ds =>
      rcases htail with ⟨rfl, hexponent⟩ | ⟨es, e, rfl, hes, hexponent⟩
      · cases hexponent
        simp only [hread ds rfl, pointed]
        rfl
      · cases hexponent
        simp only [hes, hread ds rfl, pointed]
        rfl

/-- So is the sign. -/
theorem ofChars? (h : n.Writes cs) :
    Numeral.ofChars? ((if n.negative then ['-'] else []) ++ cs) = some n := by
  have hunsigned := h.unsigned?
  cases hsign : n.negative with
  | true =>
      rw [hsign] at hunsigned
      exact hunsigned
  | false =>
      rw [hsign] at hunsigned
      unfold Numeral.ofChars?
      split
      case h_1 rest heq =>
        -- a whole part does not begin with a sign
        obtain ⟨-, hne, hdigits⟩ := isDigit_of_whole? h.whole
        obtain ⟨d, ds, hds⟩ := List.exists_cons_of_ne_nil hne
        obtain ⟨tail, htext, -⟩ := h.text
        rw [htext, hds] at heq
        cases (List.cons.inj heq).1
        cases hdigits '-' (hds ▸ List.mem_cons_self ..)
      case h_2 => exact hunsigned

end Writes

/-- The digits of a number are a numeral. -/
theorem writes_toDigits (negative : Bool) (n : Nat) :
    Writes ⟨negative, Nat.toDigits 10 n, none, none⟩ (Nat.toDigits 10 n) :=
  ⟨whole?_toDigits n, nofun, [], by simp [pointed], Or.inl ⟨rfl, rfl⟩⟩

theorem ofChars?_toDigits (n : Nat) :
    ofChars? (Nat.toDigits 10 n) = some ⟨false, Nat.toDigits 10 n, none, none⟩ :=
  (writes_toDigits false n).ofChars?

theorem ofChars?_neg_toDigits (n : Nat) :
    ofChars? ('-' :: Nat.toDigits 10 n) = some ⟨true, Nat.toDigits 10 n, none, none⟩ :=
  (writes_toDigits true n).ofChars?

end Numeral

-- ============================================================= integers

/-- A numeral of a whole part alone is the integer of its digits, if
that fits. -/
theorem ofChars?_of_whole {cs ds : List Char}
    (h : Numeral.ofChars? cs = some ⟨false, ds, none, none⟩) {n : Number}
    (hn : ofInt? (Numeral.digitsValue ds) = some n) : ofChars? cs = some n := by
  -- one branch at a time: nothing may evaluate the bounds of `ofInt?`
  unfold ofChars?
  rw [h]
  refine (Option.bind_some _ _).trans ((if_neg ?_).trans ((if_neg ?_).trans ?_))
  · exact Bool.false_ne_true
  · exact Bool.false_ne_true
  · rw [hn, Option.some_or]

/-- A numeral of a sign and a whole part that is not zero, likewise. -/
theorem ofChars?_of_neg_whole {cs ds : List Char}
    (h : Numeral.ofChars? cs = some ⟨true, ds, none, none⟩)
    (hne : Numeral.digitsValue ds ≠ 0) {n : Number}
    (hn : ofInt? (-(Numeral.digitsValue ds : Int)) = some n) :
    ofChars? cs = some n := by
  unfold ofChars?
  rw [h]
  refine (Option.bind_some _ _).trans
    ((if_neg ?_).trans ((if_pos ?_).trans ((if_neg hne).trans ?_)))
  · exact Bool.false_ne_true
  · rfl
  · rw [hn, Option.some_or]

/-- An integer reads back from its text. -/
theorem ofChars?_intChars (i : Int) (h : -0x8000000000000000 ≤ i ∧ i < 0x10000000000000000) :
    ofChars? (intChars i) = some (.int i h) := by
  have hfits : ofInt? i = some (.int i h) := dif_pos h
  unfold intChars
  by_cases hneg : i < 0
  · have habs : -(i.natAbs : Int) = i :=
      (Int.eq_neg_natAbs_of_nonpos (Int.le_of_lt hneg)).symm
    rw [if_pos hneg]
    refine ofChars?_of_neg_whole (Numeral.ofChars?_neg_toDigits i.natAbs) ?_ ?_
    · rw [Numeral.digitsValue_toDigits]
      exact Int.natAbs_ne_zero.2 (Int.ne_of_lt hneg)
    · rw [Numeral.digitsValue_toDigits, habs, hfits]
  · have habs : (i.natAbs : Int) = i := Int.natAbs_of_nonneg (Int.not_lt.1 hneg)
    rw [if_neg hneg]
    refine ofChars?_of_whole (Numeral.ofChars?_toDigits i.natAbs) ?_
    rw [Numeral.digitsValue_toDigits, habs, hfits]

end ProviderLink.Number
