/-
How far off digits are read. Each rounding is off by half a unit at most,
or by one part in `2 ^ 53` (`rounded_roundQuotient`). Digits and powers of
ten are many units, so that there the part is all that matters
(`Rounded.near`), and what is off by a part stays so in products and
quotients (`Near.mul`, `Near.div`).

So what is rounded last is near the number that the digits stand for
(`exists_near`), and as the double that they were written for is that
number rounded, the two are close to each other
(`close_of_ofScaledDecimal`).
-/
import Mathlib.Algebra.Order.Field.Basic
import Mathlib.Data.Nat.Cast.Order.Field
import Mathlib.Tactic.Linarith
import Mathlib.Tactic.NormNum
import Mathlib.Tactic.Positivity
import ProviderLink.Proofs.Number.Scaling

namespace ProviderLink.Binary64

-- ============================================================ nearness

/-- A little more than 1. -/
def slack : ℚ := 1 + 1 / 2 ^ 50

/-- Of two positive numbers neither is more than the other, but for a few times a little. -/
structure Near (k : ℕ) (a b : ℚ) : Prop where
  pos : 0 < a
  le : a ≤ slack ^ k * b
  ge : b ≤ slack ^ k * a

theorem one_le_slack : 1 ≤ slack := by norm_num [slack]

theorem slack_pow_pos (k : ℕ) : 0 < slack ^ k :=
  pow_pos (lt_of_lt_of_le one_pos one_le_slack) k

namespace Near

variable {a b c d : ℚ} {j k : ℕ}

theorem refl (ha : 0 < a) : Near 0 a a := by
  have hself : a ≤ slack ^ 0 * a := by rw [pow_zero, one_mul]
  exact ⟨ha, hself, hself⟩

theorem pos' (h : Near k a b) : 0 < b :=
  (mul_pos_iff_of_pos_left (slack_pow_pos k)).1 (h.pos.trans_le h.le)

theorem mono (h : Near j a b) (hjk : j ≤ k) : Near k a b := by
  have hpow : slack ^ j ≤ slack ^ k := pow_le_pow_right₀ one_le_slack hjk
  exact ⟨h.pos, h.le.trans (mul_le_mul_of_nonneg_right hpow h.pos'.le),
    h.ge.trans (mul_le_mul_of_nonneg_right hpow h.pos.le)⟩

theorem trans (h : Near j a b) (h' : Near k b c) : Near (j + k) a c := by
  refine ⟨h.pos, ?_, ?_⟩
  · calc a ≤ slack ^ j * b := h.le
      _ ≤ slack ^ j * (slack ^ k * c) := mul_le_mul_of_nonneg_left h'.le (slack_pow_pos j).le
      _ = slack ^ (j + k) * c := by ring
  · calc c ≤ slack ^ k * b := h'.ge
      _ ≤ slack ^ k * (slack ^ j * a) := mul_le_mul_of_nonneg_left h.ge (slack_pow_pos k).le
      _ = slack ^ (j + k) * a := by ring

theorem mul (h : Near j a b) (h' : Near k c d) : Near (j + k) (a * c) (b * d) := by
  refine ⟨mul_pos h.pos h'.pos, ?_, ?_⟩
  · calc a * c ≤ slack ^ j * b * (slack ^ k * d) :=
          mul_le_mul h.le h'.le h'.pos.le (h.pos.le.trans h.le)
      _ = slack ^ (j + k) * (b * d) := by ring
  · calc b * d ≤ slack ^ j * a * (slack ^ k * c) :=
          mul_le_mul h.ge h'.ge h'.pos'.le (h.pos'.le.trans h.ge)
      _ = slack ^ (j + k) * (a * c) := by ring

theorem inv (h : Near k a b) : Near k a⁻¹ b⁻¹ := by
  refine ⟨inv_pos.2 h.pos, ?_, ?_⟩
  · rw [inv_le_iff_one_le_mul₀ h.pos, mul_right_comm, ← div_eq_mul_inv, one_le_div h.pos']
    exact h.ge
  · rw [inv_le_iff_one_le_mul₀ h.pos', mul_right_comm, ← div_eq_mul_inv, one_le_div h.pos]
    exact h.le

theorem div (h : Near j a b) (h' : Near k c d) : Near (j + k) (a / c) (b / d) := by
  rw [div_eq_mul_inv, div_eq_mul_inv]
  exact h.mul h'.inv

end Near

-- ============================================================ rounding

/-- The units are half a unit off at most, or one part in `2 ^ 53`. -/
def Rounded (q : ℚ) (units : ℕ) : Prop :=
  q ≤ units + (1 / 2 + q / 2 ^ 53) ∧ units ≤ q + (1 / 2 + q / 2 ^ 53)

variable {num den units : ℕ}

/-- A step is one unit, or one part in `2 ^ 52`. -/
theorem step_le (q : ℕ) : 2 ^ 52 * step q ≤ 2 ^ 52 + q := by
  by_cases hsmall : q < 2 ^ 53
  · rw [step_of_lt hsmall]
    omega
  · have hne : q ≠ 0 := by omega
    have hlog : 52 ≤ q.log2 := (Nat.le_log2 hne).2 (by omega)
    have hsplit : 2 ^ 52 * step q = 2 ^ q.log2 := by
      rw [step, Nat.pow_eq, ← Nat.pow_add, Nat.add_sub_cancel' hlog]
    rw [hsplit]
    exact Nat.le_trans (Nat.log2_self_le hne) (Nat.le_add_left ..)

theorem rounded_roundQuotient (num : ℕ) (hden : 0 < den) :
    Rounded (num / den) (roundQuotient num den) := by
  obtain ⟨hup, hdown, -⟩ := halfEven_spec num (Nat.mul_pos hden (step_pos (num / den)))
  have hstep : (step (num / den) : ℚ) ≤ 1 + num / den / 2 ^ 52 := by
    have hle : (2 ^ 52 * step (num / den) : ℚ) ≤ 2 ^ 52 + (num / den : ℕ) := by
      exact_mod_cast step_le (num / den)
    have hfloor : ((num / den : ℕ) : ℚ) ≤ num / den := Nat.cast_div_le
    linarith
  have hden' : (0 : ℚ) < den := Nat.cast_pos.2 hden
  rw [roundQuotient_eq]
  generalize halfEven num (den * step (num / den)) = c at hup hdown
  generalize step (num / den) = s at hup hdown hstep
  have hup' : (2 * num : ℚ) ≤ 2 * (c * (den * s)) + den * s := by exact_mod_cast hup
  have hdown' : (2 * (c * (den * s)) : ℚ) ≤ 2 * num + den * s := by exact_mod_cast hdown
  have hnum : (num : ℚ) = num / den * den := (div_mul_cancel₀ _ hden'.ne').symm
  rw [hnum] at hup' hdown'
  have hup'' : (num / den : ℚ) ≤ c * s + s / 2 := by
    refine le_of_mul_le_mul_right ?_ hden'
    linarith
  have hdown'' : (c * s : ℚ) ≤ num / den + s / 2 := by
    refine le_of_mul_le_mul_right ?_ hden'
    linarith
  rw [Rounded, Nat.cast_mul]
  constructor <;> linarith

/-- Where half a unit is little, the units are near what was rounded. -/
theorem Rounded.near {q : ℚ} (h : Rounded q units) (hq : 2 ^ 50 ≤ q) : Near 1 q units := by
  obtain ⟨hlow, hhigh⟩ := h
  refine ⟨by linarith, ?_, ?_⟩ <;> rw [pow_one, slack] <;> linarith

-- ============================================================= reading

theorem two_pow_le_scale : (2 ^ 50 : ℚ) ≤ scale := by
  have hle : Nat.pow 2 50 ≤ scale := by decide +kernel
  exact_mod_cast hle

theorem units_of_ofUnits {negative : Bool} {y : Binary64} (h : ofUnits negative num den = some y) :
    y.units = roundQuotient num den := by
  unfold ofUnits at h
  dsimp only at h
  split at h
  · cases h
    rfl
  · cases h

/-- A number of a few digits or more is near the double that it is rounded to. -/
theorem near_roundQuotient {n : ℕ} (hn : 0 < n) :
    Near 1 (n * scale) (roundQuotient (n * scale) 1) := by
  have hround := rounded_roundQuotient (n * scale) Nat.one_pos
  rw [Nat.cast_one, div_one, Nat.cast_mul] at hround
  refine hround.near (two_pow_le_scale.trans ?_)
  have hone : (1 : ℚ) ≤ n := by exact_mod_cast hn
  exact le_mul_of_one_le_left (Nat.cast_nonneg _) hone

/-- What is written of a double, as a fraction of units. -/
theorem rounded_of_roundsTo {m : ℕ} {e : ℤ} (h : roundsTo units m e = true) :
    Rounded (m * 10 ^ e * scale) units := by
  have hzpow : (10 : ℚ) ^ e = 10 ^ e.toNat / 10 ^ (-e).toNat := by
    rw [← zpow_natCast, ← zpow_natCast, ← zpow_sub₀ (by norm_num)]
    congr 1
    omega
  have hround := rounded_roundQuotient (m * 10 ^ e.toNat * scale) (tens_pos (-e).toNat)
  rw [roundsTo_iff.1 h] at hround
  convert hround using 1
  rw [hzpow]
  push_cast
  ring

section Scaling

variable {x y : Binary64} {v : ℚ} {k n : ℕ}

theorem near_powerOfTen (hn : n ≤ 308) :
    ∃ p, powerOfTen n = some p ∧ Near 1 (10 ^ n * scale) p.units ∧ scale ≤ p.units := by
  obtain ⟨p, hp, hunits, hscale⟩ := exists_powerOfTen hn
  have hten := near_roundQuotient (tens_pos n)
  rw [← hunits, Nat.cast_pow, Nat.cast_ofNat] at hten
  exact ⟨p, hp, hten, hscale⟩

/-- Multiplying by a power of ten rounds what is near the product. -/
theorem near_scaleUp (hx : Near k v x.units) (hn : n ≤ 308)
    (h : (powerOfTen n).bind x.scaleUp = some y) :
    ∃ q, Near (k + 1) (v * 10 ^ n) q ∧ Rounded q y.units := by
  obtain ⟨p, hp, hten, -⟩ := near_powerOfTen hn
  have hs : (0 : ℚ) < scale := Nat.cast_pos.2 scale_pos
  rw [hp] at h
  have hy : x.scaleUp p = some y := (Option.bind_some ..).symm.trans h
  have hround := rounded_roundQuotient (x.units * p.units) scale_pos
  rw [← units_of_ofUnits hy, Nat.cast_mul] at hround
  refine ⟨_, ?_, hround⟩
  have hnear := (hx.mul hten).div (.refl hs)
  rwa [← mul_assoc, mul_div_cancel_right₀ _ hs.ne'] at hnear

/-- Dividing by a power of ten rounds what is near the quotient. -/
theorem near_scaleDown (hx : Near k v x.units) (hn : n ≤ 308)
    (h : (powerOfTen n).bind x.scaleDown = some y) :
    ∃ q, Near (k + 1) (v / 10 ^ n) q ∧ Rounded q y.units := by
  obtain ⟨p, hp, hten, hscale⟩ := near_powerOfTen hn
  have hs : (0 : ℚ) < scale := Nat.cast_pos.2 scale_pos
  rw [hp] at h
  have hy : x.scaleDown p = some y := (Option.bind_some ..).symm.trans h
  have hround := rounded_roundQuotient (x.units * scale) (Nat.lt_of_lt_of_le scale_pos hscale)
  rw [← units_of_ofUnits hy, Nat.cast_mul] at hround
  refine ⟨_, ?_, hround⟩
  have hnear := (hx.mul (.refl hs)).div hten
  rwa [mul_div_mul_right _ _ hs.ne'] at hnear

/-- Not even the largest power of ten makes 1 small. -/
theorem two_pow_le_of_near {q : ℚ} (h : Near 2 (v / 10 ^ 308) q) (hv : (scale : ℚ) ≤ v) :
    2 ^ 50 ≤ q := by
  obtain ⟨k, hk, hle⟩ : ∃ k, 308 = k ∧ (Nat.pow 2 50 + 3) * Nat.pow 10 k ≤ scale :=
    ⟨308, rfl, by decide +kernel⟩
  have hscale : ((2 ^ 50 + 3) * 10 ^ k : ℚ) ≤ scale := by exact_mod_cast hle
  rw [hk] at h
  have hquotient : (2 ^ 50 + 3 : ℚ) ≤ v / 10 ^ k :=
    (le_div_iff₀ (by positivity)).2 (hscale.trans hv)
  have hnear := hquotient.trans h.le
  have hslack : slack ^ 2 * 2 ^ 50 ≤ 2 ^ 50 + 3 := by norm_num [slack]
  exact le_of_mul_le_mul_left (hslack.trans hnear) (slack_pow_pos 2)

/-- So does dividing by one in two steps: what is divided first is not small. -/
theorem near_scaleDownByTens (hx : Near k v x.units) (hv : (scale : ℚ) ≤ v) (hk : k ≤ 1)
    (hn : n ≤ 616) (h : x.scaleDownByTens n = some y) :
    ∃ q, Near 4 (v / 10 ^ n) q ∧ Rounded q y.units := by
  by_cases hsmall : n ≤ 308
  · rw [scaleDownByTens_of_le x hsmall] at h
    obtain ⟨q, hq, hy⟩ := near_scaleDown hx hsmall h
    exact ⟨q, hq.mono (by omega), hy⟩
  · have hne : x.units ≠ 0 := by
      intro hzero
      have hpos := hx.pos'
      rw [hzero] at hpos
      exact absurd hpos (by norm_num)
    rw [scaleDownByTens_of_lt x (by omega) hne] at h
    obtain ⟨z, hz, h'⟩ := Option.bind_eq_some_iff.1 h
    rw [scaleDownByTens_of_le z (by omega)] at h'
    obtain ⟨q, hq, hround⟩ := near_scaleDown hx (Nat.le_refl 308) hz
    have hlarge := two_pow_le_of_near (hq.mono (by omega)) hv
    obtain ⟨q', hq', hround'⟩ := near_scaleDown (hq.trans (hround.near hlarge)) (by omega) h'
    have hvalue : v / 10 ^ 308 / 10 ^ (n - 308) = v / 10 ^ n := by
      rw [div_div, ← pow_add, Nat.add_sub_cancel' (by omega)]
    rw [hvalue] at hq'
    exact ⟨q', hq'.mono (by omega), hround'⟩

end Scaling

/-- Digits are read by rounding what is near the number that they stand for. -/
theorem exists_near {negative : Bool} {m : ℕ} {e : ℤ} {y : Binary64} (hm : 0 < m)
    (hm17 : m ≤ 10 ^ 17) (he : -616 ≤ e) (h : ofScaledDecimal negative m e = some y) :
    ∃ q, Near 4 (m * 10 ^ e * scale) q ∧ Rounded q y.units := by
  obtain ⟨x, hx, -, hunits⟩ := ofQuotient_whole negative hm17
  have hnear := near_roundQuotient hm
  rw [← hunits] at hnear
  rw [ofScaledDecimal, hx] at h
  have h' := (Option.bind_some ..).symm.trans h
  by_cases hneg : e < 0
  · obtain ⟨n, rfl⟩ : ∃ n : ℕ, e = -(n : ℤ) := ⟨(-e).toNat, by omega⟩
    have hvalue : (m : ℚ) * scale / 10 ^ n = m * 10 ^ (-(n : ℤ)) * scale := by
      rw [zpow_neg, zpow_natCast]
      ring
    have hcount : (- -(n : ℤ)).toNat = n := by omega
    rw [if_pos hneg, hcount] at h'
    have hone : (1 : ℚ) ≤ m := by exact_mod_cast hm
    have hlarge : (scale : ℚ) ≤ m * scale := le_mul_of_one_le_left (Nat.cast_nonneg _) hone
    rw [← hvalue]
    exact near_scaleDownByTens hnear hlarge (Nat.le_refl 1) (by omega) h'
  · obtain ⟨n, rfl⟩ : ∃ n : ℕ, e = n := ⟨e.toNat, by omega⟩
    rw [if_neg hneg] at h'
    by_cases hn : (n : ℤ) ≤ 308
    · rw [if_pos hn, Int.toNat_natCast] at h'
      obtain ⟨q, hq, hround⟩ := near_scaleUp hnear (by omega) h'
      have hvalue : (m : ℚ) * scale * 10 ^ n = m * 10 ^ (n : ℤ) * scale := by
        rw [zpow_natCast]
        ring
      rw [hvalue] at hq
      exact ⟨q, hq.mono (by decide), hround⟩
    · rw [if_neg hn, if_neg (Nat.ne_of_gt hm)] at h'
      cases h'

-- ======================================================== units again

/-- One part in `10 ^ 14` is between the two, and one unit. -/
def Close (units units' : ℕ) : Prop :=
  units ≤ units' + units / 10 ^ 14 + 1 ∧ units' ≤ units + units / 10 ^ 14 + 1

theorem close_refl (units : ℕ) : Close units units := ⟨by omega, by omega⟩

theorem le_add_div {a b c : ℕ} (h : (a : ℚ) ≤ b + c / 10 ^ 14 + 1) :
    a ≤ b + c / 10 ^ 14 + 1 := by
  have hmul : (a * 10 ^ 14 : ℚ) ≤ (b + 1) * 10 ^ 14 + c := by linarith
  have hmul' : a * 10 ^ 14 ≤ (b + 1) * 10 ^ 14 + c := by exact_mod_cast hmul
  omega

/-- What is rounded is close if what it is rounded from is near. -/
theorem close_of_near {v q : ℚ} {units units' : ℕ} (hpos : 0 < units) (hv : Rounded v units)
    (hnear : Near 4 v q) (hq : Rounded q units') : Close units units' := by
  have hslack : slack ^ 4 ≤ 1 + 5 / 2 ^ 50 := by norm_num [slack]
  have hle : v ≤ (1 + 5 / 2 ^ 50) * q :=
    hnear.le.trans (mul_le_mul_of_nonneg_right hslack hnear.pos'.le)
  have hge : q ≤ (1 + 5 / 2 ^ 50) * v :=
    hnear.ge.trans (mul_le_mul_of_nonneg_right hslack hnear.pos.le)
  have hone : (1 : ℚ) ≤ units := by exact_mod_cast hpos
  obtain ⟨hlow, hhigh⟩ := hv
  obtain ⟨hlow', hhigh'⟩ := hq
  exact ⟨le_add_div (by linarith), le_add_div (by linarith)⟩

/-- Seventeen digits do not stand for a double if they are that far behind the point. -/
theorem exponent_ge {m : ℕ} {e : ℤ} (hpos : 0 < units) (hm : m ≤ 10 ^ 17)
    (hrounds : roundsTo units m e = true) : -616 ≤ e := by
  obtain ⟨k, hk, hzero⟩ : ∃ k, k = 616 ∧ roundQuotient (10 ^ 17 * scale) (Nat.pow 10 k) = 0 :=
    ⟨616, rfl, by decide +kernel⟩
  refine Int.not_lt.1 fun hlt => Nat.not_le_of_lt hpos ?_
  have hnat : e.toNat = 0 := by omega
  rw [roundsTo_iff, hnat, Nat.pow_zero, Nat.mul_one] at hrounds
  rw [← hrounds, ← hzero]
  refine roundQuotient_mono (tens_pos _) (tens_pos k) (Nat.mul_le_mul ?_ ?_)
  · exact Nat.mul_le_mul_right scale hm
  · exact Nat.pow_le_pow_right (by decide) (by omega)

/-- What digits are read as is close to the double that they were written for. -/
theorem close_of_ofScaledDecimal {negative : Bool} {m : ℕ} {e : ℤ} {y : Binary64}
    (hpos : 0 < units) (hm : 0 < m) (hm17 : m ≤ 10 ^ 17) (hrounds : roundsTo units m e = true)
    (h : ofScaledDecimal negative m e = some y) : Close units y.units := by
  obtain ⟨q, hnear, hq⟩ := exists_near hm hm17 (exponent_ge hpos hm17 hrounds) h
  exact close_of_near hpos (rounded_of_roundsTo hrounds) hnear hq

end ProviderLink.Binary64
