/-
How quotients are rounded to doubles. A quotient is rounded to a whole
number of steps, where the step is the power of two that leaves 53 bits,
and the whole number is the nearest one, the even one of two
(`roundQuotient_eq`).

Within one step size rounding is monotone because rounding to whole
numbers is (`halfEven_mono`). Where the step size changes, a power of two
lies between the quotients, and rounding does not get past it. So rounding
is monotone throughout (`roundQuotient_mono`): it looks at the quotient
alone, not at what it is a quotient of (`roundQuotient_congr`).

A rounded quotient is a whole number of at most 53 bits times a power of
two, and these are left alone by rounding (`roundQuotient_mantissa`). So
what is rounded is a double unless it is out of range
(`fits_roundQuotient`), and around each double there is some room in which
everything is rounded to it (`roundQuotient_of_near`).
-/
import Mathlib.Tactic.Ring
import ProviderLink.Number

namespace ProviderLink.Binary64

-- ======================================================= whole numbers

/-- The whole number nearest to `num / den`; of two equally near, the even one. -/
def halfEven (num den : Nat) : Nat :=
  let below := num / den
  let rest := num % den
  let up := den < 2 * rest || (den == 2 * rest && below % 2 == 1)
  if up then below + 1 else below

section HalfEven

variable {num den num' den' c : Nat}

/-- The whole number is at most half away, and by less if it is odd. -/
theorem halfEven_spec (num : Nat) (hden : 0 < den) :
    2 * num ≤ 2 * (halfEven num den * den) + den ∧ 2 * (halfEven num den * den) ≤ 2 * num + den
      ∧ (halfEven num den % 2 = 1 → 2 * num < 2 * (halfEven num den * den) + den
        ∧ 2 * (halfEven num den * den) < 2 * num + den) := by
  have hnum : num / den * den + num % den = num := Nat.div_add_mod' num den
  have hrest := Nat.mod_lt num hden
  unfold halfEven
  dsimp only
  split
  case isTrue hup =>
    simp only [Bool.or_eq_true, Bool.and_eq_true, decide_eq_true_eq, beq_iff_eq] at hup
    simp only [Nat.succ_mul]
    omega
  case isFalse hdown =>
    simp only [Bool.or_eq_true, Bool.and_eq_true, decide_eq_true_eq, beq_iff_eq] at hdown
    omega

/-- What is less than half away is the nearest. -/
theorem halfEven_eq (hden : 0 < den) (hlow : 2 * (c * den) < 2 * num + den)
    (hhigh : 2 * num < 2 * (c * den) + den) : halfEven num den = c := by
  obtain ⟨hup, hdown, -⟩ := halfEven_spec num hden
  have hle : halfEven num den * den < (c + 1) * den := by
    rw [Nat.succ_mul]
    omega
  have hge : c * den < (halfEven num den + 1) * den := by
    rw [Nat.succ_mul]
    omega
  have hle' := Nat.lt_of_mul_lt_mul_right hle
  have hge' := Nat.lt_of_mul_lt_mul_right hge
  omega

/-- The nearest whole number is monotone in the quotient. -/
theorem halfEven_mono (hden : 0 < den) (hden' : 0 < den') (h : num * den' ≤ num' * den) :
    halfEven num den ≤ halfEven num' den' := by
  obtain ⟨-, hdown, hodd⟩ := halfEven_spec num hden
  obtain ⟨hup, -, hodd'⟩ := halfEven_spec num' hden'
  -- the midpoint between a smaller result and the next would lie between the quotients, and it
  -- could not be both of them, for it is rounded to one number
  refine Nat.le_of_not_lt fun hlt => ?_
  generalize halfEven num den = c at hdown hodd hlt
  generalize halfEven num' den' = c' at hup hodd' hlt
  have hhalf : ∀ d, (2 * c' + 1) * d = 2 * (c' * d) + d := fun d => by
    rw [Nat.succ_mul, Nat.mul_assoc]
  have hmid' : 2 * num' ≤ (2 * c' + 1) * den' := (hhalf den').symm ▸ hup
  have hsucc : (c' + 1) * den ≤ c * den := Nat.mul_le_mul_right den hlt
  have hmid : (2 * c' + 1) * den ≤ 2 * num := by
    rw [Nat.succ_mul] at hsucc
    rw [hhalf]
    omega
  have hstrict : (2 * c' + 1) * den < 2 * num ∨ 2 * num' < (2 * c' + 1) * den' := by
    rcases Nat.mod_two_eq_zero_or_one c' with heven | hodd''
    · left
      by_cases hnext : c = c' + 1
      · obtain ⟨-, hlow⟩ := hodd (by omega)
        rw [Nat.succ_mul] at hsucc
        rw [hhalf]
        omega
      · have hskip : (c' + 2) * den ≤ c * den := Nat.mul_le_mul_right den (by omega)
        rw [Nat.add_mul] at hskip
        rw [hhalf]
        omega
    · right
      rw [hhalf]
      exact (hodd' hodd'').1
  have hcross : 2 * num * den' ≤ 2 * num' * den := by
    rw [Nat.mul_assoc, Nat.mul_assoc]
    exact Nat.mul_le_mul_left 2 h
  have hswap : (2 * c' + 1) * den * den' = (2 * c' + 1) * den' * den := Nat.mul_right_comm ..
  rcases hstrict with hstrict | hstrict
  · have hleft := Nat.mul_lt_mul_of_pos_right hstrict hden'
    have hright := Nat.mul_le_mul_right den hmid'
    omega
  · have hleft := Nat.mul_le_mul_right den' hmid
    have hright := Nat.mul_lt_mul_of_pos_right hstrict hden
    omega

/-- What is not above a whole number is not rounded above it. -/
theorem halfEven_le (hden : 0 < den) (h : num ≤ c * den) : halfEven num den ≤ c := by
  have hexact : halfEven (c * den) den = c := halfEven_eq hden (by omega) (by omega)
  have hle := halfEven_mono hden hden (Nat.mul_le_mul_right den h)
  rwa [hexact] at hle

theorem le_halfEven (hden : 0 < den) (h : c * den ≤ num) : c ≤ halfEven num den := by
  have hexact : halfEven (c * den) den = c := halfEven_eq hden (by omega) (by omega)
  have hle := halfEven_mono hden hden (Nat.mul_le_mul_right den h)
  rwa [hexact] at hle

end HalfEven

-- =============================================================== steps

/-- The distance of neighbouring doubles from a whole number on, which leaves 53 bits. -/
def step (q : Nat) : Nat := Nat.pow 2 (Nat.log2 q - 52)

/-- A quotient is rounded to a whole number of steps. -/
theorem roundQuotient_eq (num den : Nat) :
    roundQuotient num den = halfEven num (den * step (num / den)) * step (num / den) := rfl

theorem roundQuotient_zero (den : Nat) : roundQuotient 0 den = 0 := by simp [roundQuotient]

theorem step_pos (q : Nat) : 0 < step q := Nat.two_pow_pos _

theorem step_eq {q k : Nat} (hlow : 2 ^ (52 + k) ≤ q) (hhigh : q < 2 ^ (53 + k)) :
    step q = 2 ^ k := by
  have hpos : q ≠ 0 := Nat.ne_of_gt (Nat.lt_of_lt_of_le (Nat.two_pow_pos _) hlow)
  have hlog : q.log2 = 52 + k := (Nat.log2_eq_iff hpos).2 ⟨hlow, by
    rwa [Nat.add_right_comm]⟩
  rw [step, hlog, Nat.add_sub_cancel_left, Nat.pow_eq]

theorem step_of_lt {q : Nat} (h : q < 2 ^ 53) : step q = 1 := by
  have hlog : q.log2 - 52 = 0 := by
    by_cases hzero : q = 0
    · rw [hzero, Nat.log2_zero]
    · have hlt := (Nat.log2_lt hzero).2 h
      omega
  rw [step, hlog, Nat.pow_eq, Nat.pow_zero]

section Rounding

variable {num den num' den' : Nat}

/-- Rounding does not get past a power of two from below. -/
theorem roundQuotient_le_two_pow {a : Nat} (hden : 0 < den) (h : num < 2 ^ a * den) :
    roundQuotient num den ≤ 2 ^ a := by
  have hq : num / den < 2 ^ a := (Nat.div_lt_iff_lt_mul hden).2 h
  have hk : (num / den).log2 - 52 ≤ a := by
    by_cases hzero : num / den = 0
    · rw [hzero, Nat.log2_zero]
      exact Nat.zero_le a
    · have hlt := (Nat.log2_lt hzero).2 hq
      omega
  have hsplit : 2 ^ (a - ((num / den).log2 - 52)) * step (num / den) = 2 ^ a := by
    rw [step, Nat.pow_eq, ← Nat.pow_add, Nat.sub_add_cancel hk]
  rw [roundQuotient_eq, ← hsplit]
  refine Nat.mul_le_mul_right _ (halfEven_le (Nat.mul_pos hden (step_pos _)) ?_)
  rw [Nat.mul_left_comm, hsplit, Nat.mul_comm]
  exact Nat.le_of_lt h

/-- Nor from above. -/
theorem two_pow_le_roundQuotient {a : Nat} (hden : 0 < den) (h : 2 ^ a * den ≤ num) :
    2 ^ a ≤ roundQuotient num den := by
  have hq : 2 ^ a ≤ num / den := (Nat.le_div_iff_mul_le hden).2 h
  have hne : num / den ≠ 0 := Nat.ne_of_gt (Nat.lt_of_lt_of_le (Nat.two_pow_pos a) hq)
  have hlog : a ≤ (num / den).log2 := (Nat.le_log2 hne).2 hq
  have hsplit : 2 ^ ((num / den).log2 - ((num / den).log2 - 52)) * step (num / den)
      = 2 ^ (num / den).log2 := by
    rw [step, Nat.pow_eq, ← Nat.pow_add, Nat.sub_add_cancel (Nat.sub_le ..)]
  refine Nat.le_trans (Nat.pow_le_pow_right (by decide) hlog) ?_
  rw [roundQuotient_eq, ← hsplit]
  refine Nat.mul_le_mul_right _ (le_halfEven (Nat.mul_pos hden (step_pos _)) ?_)
  rw [Nat.mul_left_comm, hsplit, Nat.mul_comm]
  exact (Nat.le_div_iff_mul_le hden).1 (Nat.log2_self_le hne)

/-- Rounding is monotone in the quotient. -/
theorem roundQuotient_mono (hden : 0 < den) (hden' : 0 < den') (h : num * den' ≤ num' * den) :
    roundQuotient num den ≤ roundQuotient num' den' := by
  have hq : num / den ≤ num' / den' := by
    rw [Nat.le_div_iff_mul_le hden']
    refine Nat.le_of_mul_le_mul_right (Nat.le_trans ?_ h) hden
    rw [Nat.mul_right_comm]
    exact Nat.mul_le_mul_right den' (Nat.div_mul_le_self num den)
  by_cases hstep : step (num / den) = step (num' / den')
  · rw [roundQuotient_eq, roundQuotient_eq, hstep]
    refine Nat.mul_le_mul_right _ (halfEven_mono (Nat.mul_pos hden (step_pos _))
      (Nat.mul_pos hden' (step_pos _)) ?_)
    rw [← Nat.mul_assoc, ← Nat.mul_assoc]
    exact Nat.mul_le_mul_right _ h
  · -- the larger quotient has more bits, so a power of two is between the two
    have hne : num' / den' ≠ 0 := by
      intro hzero
      rw [hzero] at hq hstep
      rw [Nat.le_zero.1 hq] at hstep
      exact hstep rfl
    have hbits : num / den < 2 ^ (num' / den').log2 := by
      refine Nat.lt_of_not_le fun hle => hstep ?_
      have hpos : num / den ≠ 0 := Nat.ne_of_gt (Nat.lt_of_lt_of_le (Nat.two_pow_pos _) hle)
      have hlog : (num / den).log2 = (num' / den').log2 :=
        (Nat.log2_eq_iff hpos).2 ⟨hle, Nat.lt_of_le_of_lt hq Nat.lt_log2_self⟩
      rw [step, hlog]
      rfl
    refine Nat.le_trans (roundQuotient_le_two_pow hden ((Nat.div_lt_iff_lt_mul hden).1 hbits))
      (two_pow_le_roundQuotient hden' ?_)
    exact (Nat.le_div_iff_mul_le hden').1 (Nat.log2_self_le hne)

theorem roundQuotient_one_mono (h : num ≤ num') :
    roundQuotient num 1 ≤ roundQuotient num' 1 :=
  roundQuotient_mono Nat.one_pos Nat.one_pos (Nat.mul_le_mul_right 1 h)

/-- Rounding looks at the quotient alone. -/
theorem roundQuotient_congr (hden : 0 < den) (hden' : 0 < den') (h : num * den' = num' * den) :
    roundQuotient num den = roundQuotient num' den' :=
  Nat.le_antisymm (roundQuotient_mono hden hden' (Nat.le_of_eq h))
    (roundQuotient_mono hden' hden (Nat.le_of_eq h.symm))

-- ============================================================= doubles

/-- A whole number of steps is left alone. -/
theorem roundQuotient_of_dvd {n : Nat} (h : step n ∣ n) : roundQuotient n 1 = n := by
  obtain ⟨c, hc⟩ := h
  have hexact : halfEven n (step n) = c := by
    have hpos := step_pos n
    rw [Nat.mul_comm] at hc
    refine halfEven_eq hpos ?_ ?_ <;> omega
  rw [roundQuotient_eq, Nat.div_one, Nat.one_mul, hexact, Nat.mul_comm, ← hc]

/-- So is a whole number of at most 53 bits times a power of two. -/
theorem roundQuotient_mantissa {c : Nat} (k : Nat) (hc : c ≤ 2 ^ 53) :
    roundQuotient (c * 2 ^ k) 1 = c * 2 ^ k := by
  refine roundQuotient_of_dvd ?_
  rw [step, Nat.pow_eq]
  rcases Nat.eq_or_lt_of_le hc with rfl | hlt
  · rw [← Nat.pow_add, Nat.log2_two_pow]
    exact Nat.pow_dvd_pow 2 (Nat.sub_le ..)
  · refine Nat.dvd_mul_left_of_dvd (Nat.pow_dvd_pow 2 ?_) c
    by_cases hzero : c * 2 ^ k = 0
    · rw [hzero, Nat.log2_zero]
      exact Nat.zero_le k
    · have hbits : c * 2 ^ k < 2 ^ (53 + k) := by
        rw [Nat.pow_add]
        exact Nat.mul_lt_mul_of_pos_right hlt (Nat.two_pow_pos k)
      have hlog := (Nat.log2_lt hzero).2 hbits
      omega

/-- What a quotient is rounded to is such a number. -/
theorem exists_mantissa (num : Nat) (hden : 0 < den) :
    ∃ c k, roundQuotient num den = c * 2 ^ k ∧ c ≤ 2 ^ 53 := by
  refine ⟨_, (num / den).log2 - 52, roundQuotient_eq num den,
    halfEven_le (Nat.mul_pos hden (step_pos _)) ?_⟩
  have hbits : num / den < 2 ^ 53 * step (num / den) := by
    rw [step, Nat.pow_eq, ← Nat.pow_add]
    exact Nat.lt_of_lt_of_le Nat.lt_log2_self (Nat.pow_le_pow_right (by decide) (by omega))
  rw [Nat.mul_left_comm, Nat.mul_comm]
  exact Nat.le_of_lt ((Nat.div_lt_iff_lt_mul hden).1 hbits)

/-- What a quotient is rounded to is a double unless it is out of range. -/
theorem fits_roundQuotient (hden : 0 < den) (h : roundQuotient num den < limit) :
    Fits (roundQuotient num den) := by
  obtain ⟨c, k, hround, hc⟩ := exists_mantissa num hden
  exact ⟨by rw [hround, roundQuotient_mantissa k hc], h⟩

/-- A double has 53 bits before its power of two, or as many as it needs if there is none. -/
theorem exists_full_mantissa {units : Nat} (h : roundQuotient units 1 = units) :
    ∃ c k, units = c * 2 ^ k ∧ c < 2 ^ 53 ∧ (k = 0 ∨ 2 ^ 52 ≤ c) := by
  rw [roundQuotient_eq, Nat.div_one] at h
  refine ⟨_, units.log2 - 52, h.symm, ?_, ?_⟩
  · refine Nat.lt_of_mul_lt_mul_right (a := step units) ?_
    rw [h, step, Nat.pow_eq, ← Nat.pow_add]
    exact Nat.lt_of_lt_of_le Nat.lt_log2_self (Nat.pow_le_pow_right (by decide) (by omega))
  · refine or_iff_not_imp_left.2 fun hk => ?_
    have hne : units ≠ 0 := by
      rintro rfl
      exact hk rfl
    refine Nat.le_of_mul_le_mul_right (c := step units) ?_ (step_pos units)
    rw [h, step, Nat.pow_eq, ← Nat.pow_add]
    refine Nat.le_trans (Nat.le_of_eq ?_) (Nat.log2_self_le hne)
    congr 1
    omega

/-- The step at a quotient of 53 bits before a power of two. -/
theorem step_div {k : Nat} (hden : 0 < den) (hlow : k = 0 ∨ 2 ^ 52 * (den * 2 ^ k) ≤ num)
    (hhigh : num < 2 ^ 53 * (den * 2 ^ k)) : step (num / den) = 2 ^ k := by
  have hscale : ∀ a, 2 ^ (a + k) * den = 2 ^ a * (den * 2 ^ k) := fun a => by
    rw [Nat.pow_add, Nat.mul_assoc, Nat.mul_comm _ den]
  have hhigh' : num / den < 2 ^ (53 + k) := by
    rwa [Nat.div_lt_iff_lt_mul hden, hscale]
  rcases hlow with rfl | hlow
  · exact step_of_lt hhigh'
  · exact step_eq (by rwa [Nat.le_div_iff_mul_le hden, hscale]) hhigh'

/-- The number of steps is the one that is less than half a step away. -/
theorem roundQuotient_of_step {c k : Nat} (hden : 0 < den) (hstep : step (num / den) = 2 ^ k)
    (hlow : 2 * (c * (den * 2 ^ k)) < 2 * num + den * 2 ^ k)
    (hhigh : 2 * num < 2 * (c * (den * 2 ^ k)) + den * 2 ^ k) :
    roundQuotient num den = c * 2 ^ k := by
  have hunit : 0 < den * 2 ^ k := Nat.mul_pos hden (Nat.two_pow_pos k)
  rw [roundQuotient_eq, hstep, halfEven_eq hunit hlow hhigh]

/-- What differs from a double by less than a part in `2 ^ 54` is rounded to it. -/
theorem roundQuotient_of_near {units : Nat} (hfits : roundQuotient units 1 = units)
    (hden : 0 < den) (hlow : 2 ^ 54 * (units * den) < 2 ^ 54 * num + units * den)
    (hhigh : 2 ^ 54 * num < 2 ^ 54 * (units * den) + units * den) :
    roundQuotient num den = units := by
  obtain ⟨c, k, rfl, hc, hfull⟩ := exists_full_mantissa hfits
  have hprod : c * 2 ^ k * den = c * (den * 2 ^ k) := by rw [Nat.mul_assoc, Nat.mul_comm den]
  have hc' : (c + 1) * (den * 2 ^ k) ≤ 2 ^ 53 * (den * 2 ^ k) := Nat.mul_le_mul_right _ hc
  rw [hprod] at hlow hhigh
  rw [Nat.succ_mul] at hc'
  by_cases hsame : k = 0 ∨ 2 ^ 52 * (den * 2 ^ k) ≤ num
  · exact roundQuotient_of_step hden (step_div hden hsame (by omega)) (by omega) (by omega)
  · -- the quotient is below a power of two, which the double is, and the steps there are half
    obtain ⟨hk, hbelow⟩ := not_or.1 hsame
    have hc52 : c = 2 ^ 52 := by
      refine Nat.le_antisymm (Nat.le_of_not_lt fun hlt => ?_) (hfull.resolve_left hk)
      have hnext : (2 ^ 52 + 1) * (den * 2 ^ k) ≤ c * (den * 2 ^ k) :=
        Nat.mul_le_mul_right _ hlt
      rw [Nat.succ_mul] at hnext
      omega
    subst hc52
    obtain ⟨j, rfl⟩ : ∃ j, k = j + 1 := ⟨k - 1, by omega⟩
    have hhalf : den * 2 ^ (j + 1) = 2 * (den * 2 ^ j) := by ring
    have hdouble : (2 : Nat) ^ 52 * 2 ^ (j + 1) = 2 ^ 53 * 2 ^ j := by ring
    rw [hhalf] at hlow hbelow
    rw [hdouble]
    exact roundQuotient_of_step hden (step_div hden (Or.inr (by omega)) (by omega)) (by omega)
      (by omega)

end Rounding

end ProviderLink.Binary64
