/-
What scaling by a power of ten makes of digits. A quotient is a double,
since dividing makes a number smaller (`exists_scaleDownByTens`). A product
may be past the largest double, but not where digits and exponent are what
is written of a double (`exists_ofScaledDecimal`). Unless that is the
largest one, they stay below the middle between the two largest
(`le_middle`), and of each power of ten the most that does so is tried
(`product_lt`).

Digits, power of ten, and product or quotient are rounded, each by itself,
which may be off by more than the one rounding that digits are chosen for.
Where the digits, as a whole number, and the power of ten are doubles, only
the product or quotient is rounded, and what was written is what is read
(`ofScaledDecimal_product`, `ofScaledDecimal_quotient`).
-/
import ProviderLink.Proofs.Number.Shortest

namespace ProviderLink.Binary64

variable {num den units : Nat}

-- ============================================================ one step

/-- A quotient that is not rounded out of range is near a double. -/
theorem exists_ofUnits (negative : Bool) (hden : 0 < den) (h : roundQuotient num den < limit) :
    ∃ x, ofUnits negative num den = some x ∧ x.negative = negative
      ∧ x.units = roundQuotient num den :=
  ⟨_, dif_pos (fits_roundQuotient hden h), rfl, rfl⟩

theorem ten_pow_mul_mono {m n k : Nat} (h : m ≤ n) : 10 ^ m * k ≤ 10 ^ n * k :=
  Nat.mul_le_mul_right k (Nat.pow_le_pow_right (by decide) h)

theorem exists_scale_eq : ∃ bits, scale = 2 ^ bits := by
  have hpow : ∀ bits, Nat.pow 2 bits = 2 ^ bits := fun _ => rfl
  unfold scale
  apply Exists.intro
  apply hpow

/-- A whole number of at most 53 bits times a power of two is a double. -/
theorem roundQuotient_whole {c : Nat} (k : Nat) (hc : c ≤ 2 ^ 53) :
    roundQuotient (c * 2 ^ k * scale) 1 = c * 2 ^ k * scale := by
  obtain ⟨bits, hbits⟩ := exists_scale_eq
  rw [hbits, Nat.mul_assoc, ← Nat.pow_add]
  exact roundQuotient_mantissa _ hc

theorem roundQuotient_ofNat {c : Nat} (hc : c ≤ 2 ^ 53) :
    roundQuotient (c * scale) 1 = c * scale := by
  have hwhole := roundQuotient_whole 0 hc
  rwa [Nat.pow_zero, Nat.mul_one] at hwhole

/-- The powers of ten up to `10 ^ 22` are doubles. -/
theorem roundQuotient_tens {n : Nat} (hn : n ≤ 22) :
    roundQuotient (10 ^ n * scale) 1 = 10 ^ n * scale := by
  have hfive : ∀ n ≤ 22, 5 ^ n ≤ 2 ^ 53 := by decide
  have htens : 10 ^ n = 5 ^ n * 2 ^ n := by rw [← Nat.mul_pow]
  rw [htens]
  exact roundQuotient_whole n (hfive n hn)

/-- A multiple of a double is not rounded below it. -/
theorem le_roundQuotient_mul {k : Nat} (hfits : roundQuotient units 1 = units) (hk : 0 < k) :
    units ≤ roundQuotient (k * units) 1 := by
  have hle := roundQuotient_one_mono (Nat.le_mul_of_pos_left units hk)
  rwa [hfits] at hle

/-- A fraction of a double is not rounded above it. -/
theorem roundQuotient_mul_le {k : Nat} (hfits : roundQuotient units 1 = units) (hden : 0 < den)
    (hk : k ≤ den) : roundQuotient (units * k) den ≤ units := by
  have hle : roundQuotient (units * k) den ≤ roundQuotient units 1 := by
    refine roundQuotient_mono hden Nat.one_pos ?_
    rw [Nat.mul_one]
    exact Nat.mul_le_mul_left units hk
  rwa [hfits] at hle

/-- There are doubles near the powers of ten, none of them less than 1. -/
theorem exists_powerOfTen {n : Nat} (hn : n ≤ 308) :
    ∃ p, powerOfTen n = some p ∧ p.units = roundQuotient (10 ^ n * scale) 1 ∧ scale ≤ p.units := by
  obtain ⟨k, hk, hlargest⟩ : ∃ k, 308 ≤ k ∧ roundQuotient (Nat.pow 10 k * scale) 1 < limit :=
    ⟨308, Nat.le_refl _, by decide +kernel⟩
  have hle : roundQuotient (10 ^ n * scale) 1 ≤ roundQuotient (10 ^ k * scale) 1 :=
    roundQuotient_one_mono (ten_pow_mul_mono (Nat.le_trans hn hk))
  have hone : roundQuotient scale 1 = scale := by
    obtain ⟨bits, hbits⟩ := exists_scale_eq
    have h := roundQuotient_mantissa (c := 1) bits (by decide)
    rwa [Nat.one_mul, ← hbits] at h
  obtain ⟨p, hp, -, hunits⟩ :=
    exists_ofUnits false Nat.one_pos (Nat.lt_of_le_of_lt hle hlargest)
  exact ⟨p, hp, hunits, hunits ▸ le_roundQuotient_mul hone (tens_pos n)⟩

/-- Dividing by 1 or more gives a double that is not larger. -/
theorem exists_scaleDown {x d : Binary64} (hd : scale ≤ d.units) :
    ∃ y, x.scaleDown d = some y ∧ y.negative = x.negative
      ∧ y.units = roundQuotient (x.units * scale) d.units := by
  have hpos : 0 < d.units := Nat.lt_of_lt_of_le scale_pos hd
  have hle := roundQuotient_mul_le x.fits.1 hpos hd
  exact exists_ofUnits x.negative hpos (Nat.lt_of_le_of_lt hle x.fits.2)

theorem scaleDownByTens_of_le (x : Binary64) {n : Nat} (h : n ≤ 308) :
    x.scaleDownByTens n = (powerOfTen n).bind x.scaleDown := by
  rw [scaleDownByTens, dif_pos h]
  rfl

theorem scaleDownByTens_of_lt (x : Binary64) {n : Nat} (h : 308 < n) (hx : x.units ≠ 0) :
    x.scaleDownByTens n
      = ((powerOfTen 308).bind x.scaleDown).bind (scaleDownByTens · (n - 308)) := by
  rw [scaleDownByTens, dif_neg (Nat.not_le_of_lt h), if_neg hx, Option.bind_assoc]
  rfl

/-- So does dividing by a power of ten in steps. -/
theorem exists_scaleDownByTens (x : Binary64) (n : Nat) :
    ∃ y, x.scaleDownByTens n = some y ∧ y.negative = x.negative := by
  have hstep : ∀ (x : Binary64) {n}, n ≤ 308 →
      ∃ y, (powerOfTen n).bind x.scaleDown = some y ∧ y.negative = x.negative := by
    intro x n hn
    obtain ⟨p, hp, -, hscale⟩ := exists_powerOfTen hn
    obtain ⟨y, hy, hsign, -⟩ := exists_scaleDown (x := x) hscale
    rw [hp]
    exact ⟨y, (Option.bind_some ..).trans hy, hsign⟩
  induction n using Nat.strongRecOn generalizing x with
  | _ n ih =>
      by_cases hn : n ≤ 308
      · rw [scaleDownByTens_of_le x hn]
        exact hstep x hn
      · by_cases hx : x.units = 0
        · refine ⟨x, ?_, rfl⟩
          rw [scaleDownByTens, dif_neg hn, if_pos hx]
        · obtain ⟨y, hy, hsign⟩ := hstep x (Nat.le_refl 308)
          obtain ⟨z, hz, hsign'⟩ := ih (n - 308) (by omega) y
          rw [scaleDownByTens_of_lt x (Nat.lt_of_not_le hn) hx, hy]
          exact ⟨z, (Option.bind_some ..).trans hz, hsign'.trans hsign⟩

-- ============================================================ products

/-- The largest double. -/
def largest : Nat := (Nat.pow 2 53 - 1) * Nat.pow 2 2045

/-- The middle between the two largest doubles. -/
def middle : Nat := (Nat.pow 2 54 - 3) * Nat.pow 2 2044

/-- What is read of digits before a power of ten. -/
def product (m n : Nat) : Nat :=
  roundQuotient (roundQuotient (m * scale) 1 * roundQuotient (Nat.pow 10 n * scale) 1) scale

theorem product_mono {m m' n n' : Nat} (hm : m ≤ m') (hn : n ≤ n') :
    product m n ≤ product m' n' := by
  refine roundQuotient_mono scale_pos scale_pos (Nat.mul_le_mul_right scale (Nat.mul_le_mul ?_ ?_))
  · exact roundQuotient_one_mono (Nat.mul_le_mul_right scale hm)
  · exact roundQuotient_one_mono (ten_pow_mul_mono hn)

/-- Above the middle only the largest double is rounded to. -/
theorem le_middle (h : roundQuotient num 1 < largest) : num ≤ middle := by
  obtain ⟨next, hnext, hround⟩ : ∃ k, k = middle + 1 ∧ roundQuotient k 1 = largest :=
    ⟨_, rfl, by decide +kernel⟩
  refine Nat.le_of_not_lt fun hlt => Nat.not_le_of_lt h ?_
  rw [← hround]
  exact roundQuotient_one_mono (by omega)

/-- The largest double is the largest. -/
theorem le_largest (h : Fits units) : units ≤ largest := by
  obtain ⟨b, hlimit, hlargest⟩ : ∃ b, limit = 2 ^ 53 * 2 ^ b ∧ largest = (2 ^ 53 - 1) * 2 ^ b :=
    ⟨2045, by decide +kernel⟩
  obtain ⟨hfits, hlt⟩ := h
  obtain ⟨c, k, rfl, hc, hfull⟩ := exists_full_mantissa hfits
  rw [hlimit] at hlt
  rw [hlargest]
  by_cases hk : k ≤ b
  · exact Nat.mul_le_mul (by omega) (Nat.pow_le_pow_right (by decide) hk)
  · -- a full mantissa with a larger power is out of range
    have hc52 : 2 ^ 52 ≤ c := hfull.resolve_left (by omega)
    have hpow : 2 ^ (b + 1) ≤ 2 ^ k := Nat.pow_le_pow_right (by decide) (by omega)
    have hge : 2 ^ 52 * 2 ^ (b + 1) ≤ c * 2 ^ k := Nat.mul_le_mul hc52 hpow
    have hsame : (2 : Nat) ^ 52 * 2 ^ (b + 1) = 2 ^ 53 * 2 ^ b := by ring
    omega

/-- What stays below the middle has no power of ten past `10 ^ 308`. -/
theorem exponent_le {m n : Nat} (hpos : 0 < m) (h : m * 10 ^ n * scale ≤ middle) : n ≤ 308 := by
  obtain ⟨k, hk, hpast⟩ : ∃ k, k = 309 ∧ middle < Nat.pow 10 k * scale :=
    ⟨309, rfl, by decide +kernel⟩
  refine Nat.le_of_not_lt fun hlt => Nat.not_le_of_lt hpast ?_
  calc 10 ^ k * scale ≤ 10 ^ n * scale := ten_pow_mul_mono (by omega)
    _ ≤ m * (10 ^ n * scale) := Nat.le_mul_of_pos_left _ hpos
    _ = m * 10 ^ n * scale := (Nat.mul_assoc ..).symm
    _ ≤ middle := h

/-- Seventeen digits and a power of ten that stay below the middle give a double. -/
theorem product_lt {m n : Nat} (hm : m ≤ 10 ^ 17) (hn : n ≤ 308)
    (h : m * 10 ^ n * scale ≤ middle) : product m n < limit := by
  by_cases hsmall : n ≤ 291
  · have hbound : product (Nat.pow 10 17) 291 < limit := by decide +kernel
    exact Nat.lt_of_le_of_lt (product_mono hm hsmall) hbound
  · have hbound : ∀ k < 17,
        product (middle / (Nat.pow 10 (292 + k) * scale)) (292 + k) < limit := by decide +kernel
    obtain ⟨k, hk, rfl⟩ : ∃ k < 17, n = 292 + k := ⟨n - 292, by omega, by omega⟩
    refine Nat.lt_of_le_of_lt (product_mono ?_ (Nat.le_refl _)) (hbound k hk)
    refine (Nat.le_div_iff_mul_le (Nat.mul_pos (tens_pos _) scale_pos)).2 ?_
    rw [← Nat.mul_assoc]
    exact h

-- ============================================================== reading

/-- Seventeen digits are near a double. -/
theorem ofQuotient_whole (negative : Bool) {m : Nat} (hm : m ≤ 10 ^ 17) :
    ∃ x, ofQuotient negative m 1 = some x ∧ x.negative = negative
      ∧ x.units = roundQuotient (m * scale) 1 := by
  obtain ⟨k, hk, hmost⟩ : ∃ k, m ≤ k ∧ roundQuotient (k * scale) 1 < limit :=
    ⟨Nat.pow 10 17, hm, by decide +kernel⟩
  have hle := roundQuotient_one_mono (Nat.mul_le_mul_right scale hk)
  exact exists_ofUnits negative Nat.one_pos (Nat.lt_of_le_of_lt hle hmost)

/-- What is read of digits before a power of ten, where that is in range. -/
theorem ofScaledDecimal_of_nonneg (negative : Bool) {m n : Nat} (hm : m ≤ 10 ^ 17) (hn : n ≤ 308)
    (h : product m n < limit) :
    ∃ y, ofScaledDecimal negative m n = some y ∧ y.negative = negative := by
  obtain ⟨x, hx, hsign, hunits⟩ := ofQuotient_whole negative hm
  obtain ⟨p, hp, hunits', -⟩ := exists_powerOfTen hn
  have hproduct : roundQuotient (x.units * p.units) scale < limit := by
    rw [hunits, hunits']
    exact h
  obtain ⟨y, hy, hsign', -⟩ := exists_ofUnits x.negative scale_pos hproduct
  refine ⟨y, ?_, hsign'.trans hsign⟩
  rw [ofScaledDecimal, hx]
  refine (Option.bind_some ..).trans ?_
  rw [if_neg (by omega), if_pos (by omega), Int.toNat_natCast, hp]
  exact (Option.bind_some ..).trans hy

/-- What is read of digits behind a power of ten. -/
theorem ofScaledDecimal_of_neg (negative : Bool) {m : Nat} {e : Int} (hm : m ≤ 10 ^ 17)
    (he : e < 0) : ∃ y, ofScaledDecimal negative m e = some y ∧ y.negative = negative := by
  obtain ⟨x, hx, hsign, -⟩ := ofQuotient_whole negative hm
  obtain ⟨y, hy, hsign'⟩ := exists_scaleDownByTens x (-e).toNat
  refine ⟨y, ?_, hsign'.trans hsign⟩
  rw [ofScaledDecimal, hx]
  refine (Option.bind_some ..).trans ?_
  rw [if_pos he, hy]

/-- What is written of a double can be read. -/
theorem exists_ofScaledDecimal (negative : Bool) {m : Nat} {e : Int} (hfits : Fits units)
    (hpos : 0 < m) (hm : m ≤ 10 ^ 17) (hrounds : roundsTo units m e = true)
    (hwritten : shortest units = ⟨Nat.toDigits 10 m, (Nat.toDigits 10 m).length - 1 + e⟩) :
    ∃ y, ofScaledDecimal negative m e = some y ∧ y.negative = negative := by
  by_cases he : e < 0
  · exact ofScaledDecimal_of_neg negative hm he
  · obtain ⟨n, rfl⟩ : ∃ n : Nat, e = n := ⟨e.toNat, by omega⟩
    by_cases hlargest : units = largest
    · -- the largest double is tried by itself
      have hdecimal : shortest largest = ⟨Nat.toDigits 10 17976931348623157, 308⟩ := by
        decide +kernel
      have hproduct : product 17976931348623157 292 < limit := by decide +kernel
      rw [hlargest, hdecimal] at hwritten
      have hdigits := congrArg (Number.Numeral.digitsValue ·.digits) hwritten
      have hexponent := congrArg Decimal.exponent hwritten
      dsimp only at hdigits hexponent
      rw [Number.Numeral.digitsValue_toDigits, Number.Numeral.digitsValue_toDigits] at hdigits
      subst hdigits
      have hlength : (Nat.toDigits 10 17976931348623157).length = 17 := by decide
      obtain rfl : n = 292 := by omega
      exact ofScaledDecimal_of_nonneg negative hm (by decide) hproduct
    · have hlt : units < largest := Nat.lt_of_le_of_ne (le_largest hfits) hlargest
      have hneg : (-(n : Int)).toNat = 0 := by omega
      rw [roundsTo_iff, hneg, Int.toNat_natCast, Nat.pow_zero] at hrounds
      have hmiddle := le_middle (Nat.lt_of_le_of_lt (Nat.le_of_eq hrounds) hlt)
      have hn := exponent_le hpos hmiddle
      exact ofScaledDecimal_of_nonneg negative hm hn (product_lt hm hn hmiddle)

/-- A product of two doubles that are whole numbers is rounded once. -/
theorem ofScaledDecimal_product (negative : Bool) {m n : Nat} (hfits : Fits units)
    (hm : m ≤ 2 ^ 53) (hn : n ≤ 22) (hrounds : roundsTo units m n = true) :
    ∃ y, ofScaledDecimal negative m n = some y ∧ y.negative = negative ∧ y.units = units := by
  obtain ⟨x, hx, hsign, hunits⟩ := ofQuotient_whole negative (m := m) (by omega)
  obtain ⟨p, hp, hunits', -⟩ := exists_powerOfTen (n := n) (by omega)
  rw [roundQuotient_ofNat hm] at hunits
  rw [roundQuotient_tens hn] at hunits'
  have hproduct : roundQuotient (x.units * p.units) scale = units := by
    have hneg : (-(n : Int)).toNat = 0 := by omega
    rw [roundsTo_iff, hneg, Int.toNat_natCast, Nat.pow_zero] at hrounds
    rw [hunits, hunits', ← hrounds]
    refine roundQuotient_congr scale_pos Nat.one_pos ?_
    ring
  obtain ⟨y, hy, hsign', hunits''⟩ :=
    exists_ofUnits x.negative scale_pos (Nat.lt_of_le_of_lt (Nat.le_of_eq hproduct) hfits.2)
  refine ⟨y, ?_, hsign'.trans hsign, hunits''.trans hproduct⟩
  rw [ofScaledDecimal, hx]
  refine (Option.bind_some ..).trans ?_
  rw [if_neg (by omega), if_pos (by omega), Int.toNat_natCast, hp]
  exact (Option.bind_some ..).trans hy

/-- Digits that are a double, behind a power of ten that is one, are read as what they round to. -/
theorem ofScaledDecimal_quotient (negative : Bool) {c k n : Nat} (hc : c ≤ 2 ^ 53)
    (hm : c * 2 ^ k ≤ 10 ^ 17) (hn : n ≤ 22) (hpos : 0 < n)
    (hrounds : roundsTo units (c * 2 ^ k) (-(n : Int)) = true) :
    ∃ y, ofScaledDecimal negative (c * 2 ^ k : Nat) (-(n : Int)) = some y
      ∧ y.negative = negative ∧ y.units = units := by
  obtain ⟨x, hx, hsign, hunits⟩ := ofQuotient_whole negative hm
  obtain ⟨p, hp, hunits', hscale⟩ := exists_powerOfTen (n := n) (by omega)
  obtain ⟨y, hy, hsign', hunits''⟩ := exists_scaleDown (x := x) hscale
  rw [roundQuotient_whole k hc] at hunits
  rw [roundQuotient_tens hn] at hunits'
  refine ⟨y, ?_, hsign'.trans hsign, ?_⟩
  · have hneg : (- -(n : Int)).toNat = n := by omega
    rw [ofScaledDecimal, hx]
    refine (Option.bind_some ..).trans ?_
    rw [if_pos (by omega), hneg, scaleDownByTens_of_le x (by omega), hp]
    exact (Option.bind_some ..).trans hy
  · -- the scale is on both sides of the quotient
    have hpos' : (-(n : Int)).toNat = 0 := by omega
    have hneg : (- -(n : Int)).toNat = n := by omega
    rw [roundsTo_iff, hpos', hneg, Nat.pow_zero, Nat.mul_one] at hrounds
    rw [hunits'', hunits, hunits', ← hrounds]
    refine roundQuotient_congr (Nat.mul_pos (tens_pos n) scale_pos) (tens_pos n) ?_
    ring

end ProviderLink.Binary64
