/-
What the text of a double is read as. The text of every double is read as
a double of the same sign and close to it (`exists_reads`), if not always
as the same one.

There are four layouts, with and without an exponent, and the digits of a
numeral say the same in each: as many as they are, they stand for one
whole number, and what the point and the exponent make of it is a power of
ten (`exists_numeral`). There are seventeen digits at most, and none of
them is left over when they are taken up (`toFloat_eq`), so a numeral is
read by scaling that whole number once. In one layout a zero is written
behind the point, and the number is ten times as large for it.

For a few digits and a power of ten that is not too large or small it is
the double that was written (`ofScaledDecimal_short`).
-/
import ProviderLink.Proofs.Number.Nearness

namespace ProviderLink.Number

namespace Numeral

-- =============================================================== digits

/-- Further digits after a number. -/
theorem foldl_digits (n : Nat) (ds : List Char) :
    ds.foldl (fun n d => 10 * n + (d.toNat - 48)) n = n * 10 ^ ds.length + digitsValue ds := by
  induction ds generalizing n with
  | nil => rw [List.foldl_nil, List.length_nil, Nat.pow_zero, Nat.mul_one]; rfl
  | cons d ds ih =>
      have hvalue : digitsValue (d :: ds)
          = (10 * 0 + (d.toNat - 48)) * 10 ^ ds.length + digitsValue ds := ih _
      rw [List.foldl_cons, ih, hvalue, List.length_cons, Nat.pow_succ]
      ring

theorem digitsValue_append (ds ds' : List Char) :
    digitsValue (ds ++ ds') = digitsValue ds * 10 ^ ds'.length + digitsValue ds' :=
  List.foldl_append.trans (foldl_digits _ ds')

theorem digitsValue_zeros (n : Nat) : digitsValue (List.replicate n '0') = 0 := by
  induction n with
  | zero => rfl
  | succ n ih =>
      rw [List.replicate_succ', digitsValue_append, ih, Nat.zero_mul]
      rfl

/-- Digits are all taken up if they stand for less than `2 ^ 64`. -/
theorem absorb_eq {ds : List Char} {n : Nat}
    (h : n * 10 ^ ds.length + digitsValue ds < 0x10000000000000000) :
    absorb n ds = (n * 10 ^ ds.length + digitsValue ds, []) := by
  induction ds generalizing n with
  | nil => rw [absorb, List.length_nil, Nat.pow_zero, Nat.mul_one]; rfl
  | cons d ds ih =>
      have hvalue : n * 10 ^ (d :: ds).length + digitsValue (d :: ds)
          = (10 * n + (d.toNat - 48)) * 10 ^ ds.length + digitsValue ds := by
        rw [← foldl_digits, ← foldl_digits, List.foldl_cons]
      rw [hvalue] at h ⊢
      have hle : 10 * n + (d.toNat - 48) ≤ (10 * n + (d.toNat - 48)) * 10 ^ ds.length :=
        Nat.le_mul_of_pos_right _ (tens_pos _)
      rw [absorb, if_pos (by omega), ih h]

/-- What a numeral stands for as a whole number and a power of ten. -/
structure Spells (n : Numeral) (m : Nat) (e : Int) : Prop where
  digits : digitsValue (n.whole ++ n.fraction.getD []) = m
  exponent : n.exponent.getD 0 - ((n.fraction.getD []).length : Int) = e

/-- A numeral is read by scaling the number of its digits. -/
theorem toFloat_eq {n : Numeral} {m : Nat} {e : Int} (h : n.Spells m e) (hm : m ≤ 10 ^ 17) :
    n.toFloat = Binary64.ofScaledDecimal n.negative m e := by
  obtain ⟨hdigits, rfl⟩ := h
  rw [digitsValue_append] at hdigits
  have hlow : digitsValue n.whole ≤ digitsValue n.whole * 10 ^ (n.fraction.getD []).length :=
    Nat.le_mul_of_pos_right _ (tens_pos _)
  have hwhole : absorb 0 n.whole = (digitsValue n.whole, []) := by
    have hzero : 0 * 10 ^ n.whole.length + digitsValue n.whole = digitsValue n.whole := by
      rw [Nat.zero_mul, Nat.zero_add]
    rw [absorb_eq (by omega), hzero]
  have hall : absorb (digitsValue n.whole) (n.fraction.getD []) = (m, []) := by
    rw [absorb_eq (by omega), hdigits]
  rw [toFloat, hwhole]
  dsimp only
  rw [hall]
  dsimp only
  congr 1
  simp only [List.length_nil, Nat.sub_zero]
  omega

end Numeral

-- ============================================================= layouts

section Layouts

open Numeral

variable (negative : Bool) {m : Nat} {e : Int}

/-- The decimal of a whole number and a power of ten. -/
def decimal (m : Nat) (e : Int) : Decimal :=
  ⟨Nat.toDigits 10 m, (Nat.toDigits 10 m).length - 1 + e⟩

/-- Some of the digits of a number, or zeros, are digits. -/
theorem digits?_of_subset {ds : List Char} (hne : ds ≠ [])
    (h : ∀ d ∈ ds, d ∈ Nat.toDigits 10 m ∨ d = '0') : digits? ds = some ds := by
  refine digits?_of_isDigit hne fun d hd => ?_
  rcases h d hd with hmem | rfl
  · exact isDigit_toDigits m d hmem
  · rfl

/-- What the digits of a number begin with is a whole part. -/
theorem whole?_of_append (hm : 0 < m) {ds ds' : List Char} (hne : ds ≠ [])
    (h : ds ++ ds' = Nat.toDigits 10 m) : whole? ds = some ds := by
  refine whole?_of_head? (digits?_of_subset (m := m) hne fun d hd => Or.inl ?_) ?_
  · rw [← h]
    exact List.mem_append_left ds' hd
  · have hhead := head?_toDigits hm
    obtain ⟨d, ds, rfl⟩ := List.exists_cons_of_ne_nil hne
    rw [← h] at hhead
    exact hhead

theorem writes_point {whole fraction : List Char} (hw : whole? whole = some whole)
    (hf : digits? fraction = some fraction) :
    Writes ⟨negative, whole, some fraction, none⟩ (whole ++ '.' :: fraction) := by
  refine ⟨hw, fun ds hds => ?_, [], (List.append_nil _).symm, Or.inl ⟨rfl, rfl⟩⟩
  cases hds
  exact hf

/-- A whole number is written with zeros at its end, a point and one more zero. -/
theorem exists_numeral_whole (hm : 0 < m) (hlow : 0 ≤ e) (hhigh : (decimal m e).exponent ≤ 15) :
    ∃ n : Numeral, n.negative = negative ∧ n.Writes (decimalChars (decimal m e))
      ∧ (n.fraction.isSome || n.exponent.isSome) = true
      ∧ n.Spells (m * 10 ^ (e.toNat + 1)) (-1) := by
  obtain ⟨k, hlength, -, -⟩ := Binary64.length_toDigits hm
  have hlayout : decimalChars (decimal m e)
      = (Nat.toDigits 10 m ++ List.replicate e.toNat '0') ++ '.' :: ['0'] := by
    unfold decimal at hhigh
    unfold decimalChars decimal
    dsimp only at hhigh ⊢
    rw [if_pos (by omega), if_pos (by omega)]
    congr 4
    omega
  have hne : Nat.toDigits 10 m ++ List.replicate e.toNat '0' ≠ [] :=
    List.append_ne_nil_of_left_ne_nil Nat.toDigits_ne_nil _
  have hdigits : digits? (Nat.toDigits 10 m ++ List.replicate e.toNat '0')
      = some (Nat.toDigits 10 m ++ List.replicate e.toNat '0') := by
    refine digits?_of_subset (m := m) hne fun d hd => ?_
    exact (List.mem_append.1 hd).imp_right List.eq_of_mem_replicate
  have hhead : (Nat.toDigits 10 m ++ List.replicate e.toNat '0').head? ≠ some '0' := by
    have hfirst := head?_toDigits hm
    obtain ⟨d, ds, hds⟩ := List.exists_cons_of_ne_nil (Nat.toDigits_ne_nil (b := 10) (n := m))
    rw [hds] at hfirst ⊢
    exact hfirst
  refine ⟨_, rfl, hlayout ▸ writes_point negative (whole?_of_head? hdigits hhead) rfl, rfl, ?_, rfl⟩
  rw [Option.getD_some, List.append_assoc, digitsValue_append, digitsValue_toDigits,
    digitsValue_append, digitsValue_zeros, List.length_append, List.length_replicate,
    Nat.zero_mul]
  rfl

/-- A point stands between the digits. -/
theorem exists_numeral_point (hm : 0 < m) (hlow : 0 ≤ (decimal m e).exponent) (he : e < 0)
    (hhigh : (decimal m e).exponent ≤ 15) :
    ∃ n : Numeral, n.negative = negative ∧ n.Writes (decimalChars (decimal m e))
      ∧ (n.fraction.isSome || n.exponent.isSome) = true ∧ n.Spells m e := by
  obtain ⟨k, hlength, -, -⟩ := Binary64.length_toDigits hm
  unfold decimal at hlow hhigh
  dsimp only at hlow hhigh
  obtain ⟨j, rfl⟩ : ∃ j : Nat, e = (j : Int) - k := ⟨(e + k).toNat, by omega⟩
  have hlayout : decimalChars (decimal m (j - k))
      = (Nat.toDigits 10 m).take (j + 1) ++ '.' :: (Nat.toDigits 10 m).drop (j + 1) := by
    have hplaces : ((k + 1 : Nat) : Int) - 1 + (j - k) = j := by omega
    have hcount : ((j : Int) + 1).toNat = j + 1 := by omega
    unfold decimalChars decimal
    dsimp only
    rw [hlength, hplaces, hcount, if_pos (by omega), if_neg (by omega), List.append_assoc]
    rfl
  have hdrop : ((Nat.toDigits 10 m).drop (j + 1)).length = k - j := by
    rw [List.length_drop, hlength]
    omega
  have hwhole : whole? ((Nat.toDigits 10 m).take (j + 1))
      = some ((Nat.toDigits 10 m).take (j + 1)) := by
    refine whole?_of_append hm (List.length_pos_iff.1 ?_) (List.take_append_drop (j + 1) _)
    rw [List.length_take, hlength]
    omega
  have hfraction : digits? ((Nat.toDigits 10 m).drop (j + 1))
      = some ((Nat.toDigits 10 m).drop (j + 1)) := by
    refine digits?_of_subset (m := m) (List.length_pos_iff.1 ?_) fun d hd =>
      Or.inl (List.mem_of_mem_drop hd)
    rw [hdrop]
    omega
  refine ⟨_, rfl, hlayout ▸ writes_point negative hwhole hfraction, rfl, ?_, ?_⟩
  · rw [Option.getD_some, List.take_append_drop, digitsValue_toDigits]
  · rw [Option.getD_none, Option.getD_some, hdrop]
    omega

/-- Zeros and a point stand before the digits. -/
theorem exists_numeral_small (hm : 0 < m) (hlow : -5 ≤ (decimal m e).exponent)
    (hhigh : (decimal m e).exponent < 0) :
    ∃ n : Numeral, n.negative = negative ∧ n.Writes (decimalChars (decimal m e))
      ∧ (n.fraction.isSome || n.exponent.isSome) = true ∧ n.Spells m e := by
  obtain ⟨k, hlength, -, -⟩ := Binary64.length_toDigits hm
  unfold decimal at hlow hhigh
  dsimp only at hlow hhigh
  obtain ⟨z, rfl⟩ : ∃ z : Nat, e = -((z : Int) + 1 + k) := ⟨(-e - k - 1).toNat, by omega⟩
  have hlayout : decimalChars (decimal m (-((z : Int) + 1 + k)))
      = ['0'] ++ '.' :: (List.replicate z '0' ++ Nat.toDigits 10 m) := by
    have hplaces : ((k + 1 : Nat) : Int) - 1 + -((z : Int) + 1 + k) = -z - 1 := by omega
    have hcount : (-(-(z : Int) - 1) - 1).toNat = z := by omega
    unfold decimalChars decimal
    dsimp only
    rw [hlength, hplaces, hcount, if_neg (by omega), if_pos (by omega), List.append_assoc]
    rfl
  have hfraction : digits? (List.replicate z '0' ++ Nat.toDigits 10 m)
      = some (List.replicate z '0' ++ Nat.toDigits 10 m) := by
    refine digits?_of_subset (m := m)
      (List.append_ne_nil_of_right_ne_nil _ Nat.toDigits_ne_nil) fun d hd => ?_
    exact (List.mem_append.1 hd).symm.imp_right List.eq_of_mem_replicate
  refine ⟨_, rfl, hlayout ▸ writes_point negative rfl hfraction, rfl, ?_, ?_⟩
  · have hzeros : ['0'] ++ (List.replicate z '0' ++ Nat.toDigits 10 m)
        = List.replicate (z + 1) '0' ++ Nat.toDigits 10 m := rfl
    rw [Option.getD_some, hzeros, digitsValue_append, digitsValue_zeros, Nat.zero_mul,
      Nat.zero_add, digitsValue_toDigits]
  · rw [Option.getD_none, Option.getD_some, List.length_append, List.length_replicate, hlength]
    omega

/-- The exponent of a text is read with its sign. -/
theorem exponent?_sign (i : Int) :
    exponent? ((if i < 0 then '-' else '+') :: Nat.toDigits 10 i.natAbs) = some i := by
  have hdigits : digits? (Nat.toDigits 10 i.natAbs) = some (Nat.toDigits 10 i.natAbs) :=
    digits?_of_isDigit Nat.toDigits_ne_nil (isDigit_toDigits _)
  split
  case isTrue hneg =>
    rw [exponent?, hdigits, Option.map_some, digitsValue_toDigits]
    congr 1
    omega
  case isFalse hnonneg =>
    rw [exponent?, hdigits, Option.map_some, digitsValue_toDigits]
    congr 1
    omega

/-- The exponent stands behind the digits, of which all but the first are behind the point. -/
theorem exists_numeral_exponent (hm : 0 < m)
    (h : (decimal m e).exponent < -5 ∨ 15 < (decimal m e).exponent) :
    ∃ n : Numeral, n.negative = negative ∧ n.Writes (decimalChars (decimal m e))
      ∧ (n.fraction.isSome || n.exponent.isSome) = true ∧ n.Spells m e := by
  obtain ⟨k, hlength, -, -⟩ := Binary64.length_toDigits hm
  have hdrop : ((Nat.toDigits 10 m).drop 1).length = k := by
    rw [List.length_drop, hlength, Nat.add_sub_cancel]
  obtain ⟨fraction, hpointed, hrest, hfraction⟩ : ∃ fraction : Option (List Char),
      pointed fraction
          = (if ((k + 1 : Nat) : Int) = 1 then [] else '.' :: (Nat.toDigits 10 m).drop 1)
        ∧ fraction.getD [] = (Nat.toDigits 10 m).drop 1
        ∧ ∀ ds, fraction = some ds → digits? ds = some ds := by
    by_cases hk : k = 0
    · refine ⟨none, (if_pos (by omega)).symm, ?_, nofun⟩
      rw [Option.getD_none, List.eq_nil_of_length_eq_zero (hdrop.trans hk)]
    · refine ⟨some _, (if_neg (by omega)).symm, rfl, fun ds hds => ?_⟩
      cases hds
      exact digits?_of_subset (m := m) (List.length_pos_iff.1 (by omega)) fun d hd =>
        Or.inl (List.mem_of_mem_drop hd)
  unfold decimal at h
  dsimp only at h
  rw [hlength] at h
  obtain ⟨places, rfl⟩ : ∃ places : Int, e = places - k := ⟨e + k, by omega⟩
  have hplaces : ((k + 1 : Nat) : Int) - 1 + (places - k) = places := by omega
  rw [hplaces] at h
  have hlayout : decimalChars (decimal m (places - k))
      = (Nat.toDigits 10 m).take 1 ++ pointed fraction
        ++ 'e' :: (if places < 0 then '-' else '+') :: Nat.toDigits 10 places.natAbs := by
    unfold decimalChars decimal
    dsimp only
    rw [hlength, hplaces, if_neg (by omega), if_neg (by omega), hpointed, List.append_assoc]
    rfl
  have hwhole : whole? ((Nat.toDigits 10 m).take 1) = some ((Nat.toDigits 10 m).take 1) := by
    refine whole?_of_append hm (List.length_pos_iff.1 ?_) (List.take_append_drop 1 _)
    rw [List.length_take, hlength]
    omega
  refine ⟨⟨negative, _, fraction, some places⟩, rfl, ⟨hwhole, hfraction, _, hlayout,
    Or.inr ⟨_, places, rfl, exponent?_sign places, rfl⟩⟩, Bool.or_true _, ?_, ?_⟩
  · rw [hrest, List.take_append_drop, digitsValue_toDigits]
  · rw [hrest, hdrop, Option.getD_some]

/-- Whatever the layout, the digits that are written stand for the number, or for it with one zero
more where zeros are written up to the point and behind it. -/
theorem exists_numeral (hm : 0 < m) :
    ∃ (n : Numeral) (z : Nat), n.negative = negative ∧ n.Writes (decimalChars (decimal m e))
      ∧ (n.fraction.isSome || n.exponent.isSome) = true ∧ n.Spells (m * 10 ^ z) (e - z)
      ∧ (z = 0 ∨ (z : Int) = e + 1 ∧ (decimal m e).exponent ≤ 15) := by
  have hsame : ∀ {n : Numeral}, n.Spells m e → n.Spells (m * 10 ^ 0) (e - (0 : Nat)) := by
    intro n hn
    rwa [Nat.pow_zero, Nat.mul_one, Int.natCast_zero, Int.sub_zero]
  by_cases hexponent : (decimal m e).exponent < -5 ∨ 15 < (decimal m e).exponent
  · obtain ⟨n, hsign, hwrites, hinexact, hspells⟩ := exists_numeral_exponent negative hm hexponent
    exact ⟨n, 0, hsign, hwrites, hinexact, hsame hspells, Or.inl rfl⟩
  · obtain ⟨hlow, hhigh⟩ := not_or.1 hexponent
    by_cases he : e < 0
    · by_cases hsmall : (decimal m e).exponent < 0
      · obtain ⟨n, hsign, hwrites, hinexact, hspells⟩ :=
          exists_numeral_small negative hm (Int.not_lt.1 hlow) hsmall
        exact ⟨n, 0, hsign, hwrites, hinexact, hsame hspells, Or.inl rfl⟩
      · obtain ⟨n, hsign, hwrites, hinexact, hspells⟩ :=
          exists_numeral_point negative hm (Int.not_lt.1 hsmall) he (Int.not_lt.1 hhigh)
        exact ⟨n, 0, hsign, hwrites, hinexact, hsame hspells, Or.inl rfl⟩
    · obtain ⟨n, hsign, hwrites, hinexact, hspells⟩ :=
        exists_numeral_whole negative hm (Int.not_lt.1 he) (Int.not_lt.1 hhigh)
      refine ⟨n, e.toNat + 1, hsign, hwrites, hinexact, ?_, Or.inr ⟨by omega, Int.not_lt.1 hhigh⟩⟩
      have hshift : e - ((e.toNat + 1 : Nat) : Int) = -1 := by omega
      rw [hshift]
      exact hspells

end Layouts

-- ============================================================== doubles

/-- At most fifteen digits, for a whole number times or over a power of ten up to `10 ^ 22`, and not
in the range where zeros are written after them up to the seventeenth digit. -/
def Short (x : Binary64) : Prop :=
  x.units = 0 ∨ (Binary64.shortest x.units).digits.length ≤ 15
    ∧ (Binary64.shortest x.units).digits.length - 23 ≤ (Binary64.shortest x.units).exponent
    ∧ (Binary64.shortest x.units).exponent ≤ (Binary64.shortest x.units).digits.length + 21
    ∧ (Binary64.shortest x.units).exponent ≠ 15

/-- The second double is the one that the text of the first is read as. -/
structure Reads (x y : Binary64) : Prop where
  text : Number.ofChars? (Number.float x).chars = some (.float y)
  sign : y.negative = x.negative
  close : Binary64.Close x.units y.units
  short : Short x → y = x
  /-- Rounded once, the digits would be the first double. -/
  digits : x.units = 0 ∨ ∃ m e, Binary64.shortest x.units = decimal m e
    ∧ Binary64.roundsTo x.units m e = true

/-- A numeral with a point or an exponent is read as a double. -/
theorem ofChars?_of_writes {n : Numeral} {cs : List Char} (h : n.Writes cs)
    (hinexact : (n.fraction.isSome || n.exponent.isSome) = true) :
    Number.ofChars? ((if n.negative then ['-'] else []) ++ cs)
      = n.toFloat.map Number.float := by
  unfold Number.ofChars?
  rw [h.ofChars?]
  exact (Option.bind_some ..).trans (if_pos hinexact)

section Decimals

variable {x : Binary64} {m z : Nat} {e : Int}

/-- Zeros that are written up to the point and behind it leave no more than seventeen digits. -/
theorem written_le (hm : 0 < m) (hm17 : m ≤ 10 ^ 17)
    (hz : z = 0 ∨ (z : Int) = e + 1 ∧ (decimal m e).exponent ≤ 15) : m * 10 ^ z ≤ 10 ^ 17 := by
  rcases hz with rfl | ⟨hz, hexponent⟩
  · rwa [Nat.pow_zero, Nat.mul_one]
  · obtain ⟨k, hlength, -, hhigh⟩ := Binary64.length_toDigits hm
    unfold decimal at hexponent
    dsimp only at hexponent
    rw [hlength] at hexponent
    calc m * 10 ^ z ≤ 10 ^ (k + 1) * 10 ^ z := Nat.mul_le_mul_right _ (Nat.le_of_lt hhigh)
      _ = 10 ^ (k + 1 + z) := (Nat.pow_add ..).symm
      _ ≤ 10 ^ 17 := Nat.pow_le_pow_right (by decide) (by omega)

/-- Some double is read of the digits of any. -/
theorem exists_ofScaledDecimal (hm : 0 < m) (hm17 : m ≤ 10 ^ 17)
    (hrounds : Binary64.roundsTo x.units m e = true)
    (hwritten : Binary64.shortest x.units = decimal m e)
    (hz : z = 0 ∨ (z : Int) = e + 1 ∧ (decimal m e).exponent ≤ 15) :
    ∃ y, Binary64.ofScaledDecimal x.negative (m * 10 ^ z : Nat) (e - z) = some y
      ∧ y.negative = x.negative := by
  have hle := written_le hm hm17 hz
  rcases hz with rfl | ⟨hz, -⟩
  · rw [Nat.pow_zero, Nat.mul_one, Int.natCast_zero, Int.sub_zero]
    exact Binary64.exists_ofScaledDecimal x.negative x.fits hm hm17 hrounds hwritten
  · exact Binary64.ofScaledDecimal_of_neg x.negative hle (by omega)

/-- The digits of a short double are read as the double that they were written for. -/
theorem ofScaledDecimal_short (hm : 0 < m) (hm17 : m ≤ 10 ^ 17)
    (hrounds : Binary64.roundsTo x.units m e = true) (hlength : (decimal m e).digits.length ≤ 15)
    (hlow : (decimal m e).digits.length - 23 ≤ (decimal m e).exponent)
    (hhigh : (decimal m e).exponent ≤ (decimal m e).digits.length + 21)
    (hz : z = 0 ∨ (z : Int) = e + 1 ∧ (decimal m e).exponent < 15) :
    ∃ y, Binary64.ofScaledDecimal x.negative (m * 10 ^ z : Nat) (e - z) = some y
      ∧ y.negative = x.negative ∧ y.units = x.units := by
  obtain ⟨k, hk, -, hdigits⟩ := Binary64.length_toDigits hm
  unfold decimal at hlength hlow hhigh hz
  dsimp only at hlength hlow hhigh hz
  rw [hk] at hlength hlow hhigh hz
  have hpow : ∀ {j}, j ≤ 15 → 10 ^ j ≤ 10 ^ 15 := Nat.pow_le_pow_right (by decide)
  have hbits : m ≤ 2 ^ 53 := by
    have hfifteen := hpow hlength
    omega
  rcases Nat.eq_zero_or_pos z with rfl | hzpos
  · rw [Nat.pow_zero, Nat.mul_one, Int.natCast_zero, Int.sub_zero]
    by_cases he : e < 0
    · obtain ⟨n, rfl⟩ : ∃ n : Nat, e = -(n : Int) := ⟨(-e).toNat, by omega⟩
      have hexact := Binary64.ofScaledDecimal_quotient (k := 0) (n := n) x.negative hbits
        (by rwa [Nat.pow_zero, Nat.mul_one]) (by omega) (by omega)
        (by rwa [Nat.pow_zero, Nat.mul_one])
      rwa [Nat.pow_zero, Nat.mul_one] at hexact
    · obtain ⟨n, rfl⟩ : ∃ n : Nat, e = n := ⟨e.toNat, by omega⟩
      exact Binary64.ofScaledDecimal_product x.negative x.fits hbits (by omega) hrounds
  · -- with a zero behind the point they are twice a number of few bits
    obtain ⟨hz, hbelow⟩ := hz.resolve_left (Nat.ne_of_gt hzpos)
    obtain ⟨t, rfl⟩ := Nat.exists_eq_succ_of_ne_zero (Nat.ne_of_gt hzpos)
    obtain rfl : e = t := by omega
    have htwice : 5 * (m * 10 ^ t) * 2 ^ 1 = m * 10 ^ (t + 1) := by ring
    have hfew : m * 10 ^ t < 10 ^ 15 :=
      calc m * 10 ^ t < 10 ^ (k + 1) * 10 ^ t := Nat.mul_lt_mul_of_pos_right hdigits (tens_pos t)
        _ = 10 ^ (k + 1 + t) := (Nat.pow_add ..).symm
        _ ≤ 10 ^ 15 := hpow (by omega)
    have hshift : (t : Int) - (t + 1 : Nat) = -(1 : Nat) := by omega
    have hrounds' : Binary64.roundsTo x.units (5 * (m * 10 ^ t) * 2 ^ 1) (-(1 : Nat)) = true := by
      have hexponent : -((1 : Nat) : Int) + (t + 1 : Nat) = t := by omega
      rw [htwice, Binary64.roundsTo_tens, hexponent]
      exact hrounds
    rw [hshift, ← htwice]
    exact Binary64.ofScaledDecimal_quotient x.negative (by omega) (by omega) (by decide)
      (by decide) hrounds'

end Decimals

/-- What the digits of a text are scaled to is what the text is read as. -/
theorem ofChars?_floatChars {x y : Binary64} {n : Numeral} {cs : List Char} {m : Nat} {e : Int}
    (hchars : floatChars x = (if x.negative then ['-'] else []) ++ cs)
    (hsign : n.negative = x.negative) (hwrites : n.Writes cs)
    (hinexact : (n.fraction.isSome || n.exponent.isSome) = true) (hspells : n.Spells m e)
    (hm : m ≤ 10 ^ 17) (hy : Binary64.ofScaledDecimal x.negative m e = some y) :
    Number.ofChars? (Number.float x).chars = some (.float y) := by
  rw [Number.chars, hchars, ← hsign, ofChars?_of_writes hwrites hinexact,
    Numeral.toFloat_eq hspells hm, hsign, hy, Option.map_some]

theorem eq_of_units {x y : Binary64} (hsign : y.negative = x.negative)
    (hunits : y.units = x.units) : y = x := by
  cases x
  cases y
  cases hsign
  cases hunits
  rfl

/-- The text of a double is read as a double. -/
theorem exists_reads (x : Binary64) : ∃ y, Reads x y := by
  rcases Nat.eq_zero_or_pos x.units with hzero | hpos
  · have hwrites : Numeral.Writes ⟨x.negative, ['0'], some ['0'], none⟩ (['0'] ++ '.' :: ['0']) :=
      writes_point x.negative rfl rfl
    have hspells : Numeral.Spells ⟨x.negative, ['0'], some ['0'], none⟩ 0 (-1) := ⟨rfl, rfl⟩
    have hrounds : Binary64.roundsTo x.units (0 * 2 ^ 0) (-((1 : Nat) : Int)) = true := by
      rw [Binary64.roundsTo_iff, Nat.zero_mul, Nat.zero_mul, Nat.zero_mul,
        Binary64.roundQuotient_zero, hzero]
    obtain ⟨y, hy, hsign, hunits⟩ := Binary64.ofScaledDecimal_quotient x.negative (Nat.zero_le _)
      (by decide) (by decide) (by decide) hrounds
    have hchars : floatChars x = (if x.negative then ['-'] else []) ++ (['0'] ++ '.' :: ['0']) := by
      rw [floatChars, if_pos hzero]
      rfl
    exact ⟨y, ofChars?_floatChars hchars rfl hwrites rfl hspells (by decide) hy, hsign,
      hunits ▸ Binary64.close_refl x.units, fun _ => eq_of_units hsign hunits, Or.inl hzero⟩
  · obtain ⟨m, e, hm, hm17, hrounds, hdecimal⟩ := Binary64.shortest_spec x.fits.1 hpos
    change Binary64.shortest x.units = decimal m e at hdecimal
    obtain ⟨n, z, hsign, hwrites, hinexact, hspells, hz⟩ :=
      exists_numeral x.negative (m := m) (e := e) hm
    have hle : m * 10 ^ z ≤ 10 ^ 17 := written_le hm hm17 hz
    have hchars : floatChars x
        = (if x.negative then ['-'] else []) ++ decimalChars (decimal m e) := by
      rw [floatChars, if_neg (Nat.ne_of_gt hpos), hdecimal]
    obtain ⟨y, hy, hsign', hshort⟩ : ∃ y,
        Binary64.ofScaledDecimal x.negative (m * 10 ^ z : Nat) (e - z) = some y
          ∧ y.negative = x.negative ∧ (Short x → y = x) := by
      by_cases hshort : Short x
      · obtain ⟨hlength, hlow, hhigh, hpoint⟩ := hshort.resolve_left (Nat.ne_of_gt hpos)
        rw [hdecimal] at hlength hlow hhigh hpoint
        have hz' : z = 0 ∨ (z : Int) = e + 1 ∧ (decimal m e).exponent < 15 :=
          hz.imp_right fun h => ⟨h.1, by omega⟩
        obtain ⟨y, hy, hsign', hunits⟩ :=
          ofScaledDecimal_short hm hm17 hrounds hlength hlow hhigh hz'
        exact ⟨y, hy, hsign', fun _ => eq_of_units hsign' hunits⟩
      · obtain ⟨y, hy, hsign'⟩ := exists_ofScaledDecimal hm hm17 hrounds hdecimal hz
        exact ⟨y, hy, hsign', fun h => absurd h hshort⟩
    have hrounds' : Binary64.roundsTo x.units (m * 10 ^ z) (e - z) = true := by
      rw [Binary64.roundsTo_tens, Int.sub_add_cancel]
      exact hrounds
    exact ⟨y, ofChars?_floatChars hchars hsign hwrites hinexact hspells hle hy, hsign',
      Binary64.close_of_ofScaledDecimal hpos (Nat.mul_pos hm (tens_pos z)) hle hrounds' hy,
      hshort, Or.inr ⟨m, e, hdecimal, hrounds⟩⟩

end ProviderLink.Number
