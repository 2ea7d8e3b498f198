/-
The decimal of a double: what is written rounds back to it and has at most
seventeen digits (`shortest_spec`).

On a decimal grid the point tried first is the nearest one, that is, the
number over the grid step rounded to a whole number (`onGrid?_eq`). On the
grid of the seventeenth digit that point rounds back (`roundsTo_halfEven`):
a grid step is at most a part in `10 ^ 16` of the number, the point is off
by at most half of that, and a double takes in what is off by less than a
part in `2 ^ 54`. So the search does not get past the seventeenth digit.
-/
import ProviderLink.Proofs.Number.Numeral
import ProviderLink.Proofs.Number.Rounding

namespace ProviderLink

-- ======================================================= powers of ten

/-- A power of ten is a fraction of two, one of which is 1; with a larger exponent it is so many
times as large. -/
theorem tens_add {s t : Int} {k : Nat} (h : s = t + k) :
    10 ^ s.toNat * 10 ^ (-t).toNat = 10 ^ k * (10 ^ t.toNat * 10 ^ (-s).toNat) := by
  rw [← Nat.pow_add, ← Nat.pow_add, ← Nat.pow_add]
  congr 1
  omega

theorem tens_pos (k : Nat) : 0 < 10 ^ k := Nat.pow_pos (by decide)

namespace Decimal

/-- Zeros at the end of the digits only move the exponent. -/
theorem ofScaled_mul_ten {n : Nat} (hn : 0 < n) (shift : Int) :
    ofScaled (10 * n) shift = ofScaled n (shift + 1) := by
  have hdigits : Nat.toDigits 10 (10 * n) = Nat.toDigits 10 n ++ ['0'] := by
    rw [Nat.toDigits_of_base_le (by decide) (by omega), Nat.mul_div_cancel_left n (by decide),
      Nat.mul_mod_right]
    rfl
  simp only [ofScaled, hdigits, List.reverse_append, List.reverse_cons, List.reverse_nil,
    List.nil_append, List.singleton_append, List.length_append, List.length_singleton]
  rw [List.dropWhile_cons_of_pos (by decide)]
  congr 1
  omega

/-- Digits of which the last is not zero are all kept. -/
theorem ofScaled_of_mod {n : Nat} (hn : n % 10 ≠ 0) (shift : Int) :
    ofScaled n shift = ⟨Nat.toDigits 10 n, (Nat.toDigits 10 n).length - 1 + shift⟩ := by
  have hchar : ∀ d, d < 10 → d ≠ 0 → (Nat.digitChar d == '0') = false := by decide
  have hlast : (Nat.digitChar (n % 10) == '0') = false := hchar _ (Nat.mod_lt n (by decide)) hn
  obtain ⟨ds, hds⟩ : ∃ ds, Nat.toDigits 10 n = ds ++ [Nat.digitChar (n % 10)] := by
    by_cases hbase : 10 ≤ n
    · exact ⟨_, Nat.toDigits_of_base_le (by decide) hbase⟩
    · rw [Nat.toDigits_of_lt_base (by omega), Nat.mod_eq_of_lt (by omega)]
      exact ⟨[], rfl⟩
  simp only [ofScaled, hds, List.reverse_append, List.reverse_cons, List.reverse_nil,
    List.nil_append, List.singleton_append]
  rw [List.dropWhile_cons_of_neg (by rw [hlast]; exact Bool.false_ne_true), List.reverse_cons,
    List.reverse_reverse]

/-- So the digits are those of some number, with the exponent that belongs to it. -/
theorem exists_ofScaled {n : Nat} (hn : 0 < n) (shift : Int) :
    ∃ m z : Nat, 0 < m ∧ n = m * 10 ^ z ∧ ofScaled n shift
      = ⟨Nat.toDigits 10 m, (Nat.toDigits 10 m).length - 1 + (shift + z)⟩ := by
  induction n using Nat.strongRecOn generalizing shift with
  | _ n ih =>
      by_cases hlast : n % 10 = 0
      · obtain ⟨k, rfl⟩ : ∃ k, n = 10 * k := ⟨n / 10, by omega⟩
        obtain ⟨m, z, hm, rfl, hscaled⟩ := ih k (by omega) (by omega) (shift + 1)
        refine ⟨m, z + 1, hm, by rw [Nat.pow_succ]; ring, ?_⟩
        rw [ofScaled_mul_ten (by omega), hscaled]
        congr 2
        push_cast
        ring
      · refine ⟨n, 0, hn, (Nat.mul_one n).symm, ?_⟩
        rw [ofScaled_of_mod hlast, Nat.cast_zero, Int.add_zero]

end Decimal

namespace Binary64

variable {units : Nat} {shift : Int}

-- ========================================================== grid points

theorem scale_pos : 0 < scale := by
  have hpos : ∀ bits, 0 < Nat.pow 2 bits := Nat.two_pow_pos
  unfold scale
  apply hpos

/-- Whether a grid point rounds to a double. -/
theorem roundsTo_iff {n : Nat} : roundsTo units n shift = true ↔
    roundQuotient (n * 10 ^ shift.toNat * scale) (10 ^ (-shift).toNat) = units := by
  unfold roundsTo
  split
  case isTrue h =>
    have hzero : (-shift).toNat = 0 := by omega
    rw [beq_iff_eq, hzero, Nat.pow_zero]
    rfl
  case isFalse h =>
    have hzero : shift.toNat = 0 := by omega
    rw [beq_iff_eq, hzero, Nat.pow_zero, Nat.mul_one]
    rfl

/-- It is all the same how many of the zeros at the end are in the exponent. -/
theorem roundsTo_tens {n z : Nat} :
    roundsTo units (n * 10 ^ z) shift = roundsTo units n (shift + z) := by
  rw [Bool.eq_iff_iff, roundsTo_iff, roundsTo_iff]
  have htens := tens_add (s := shift + z) (t := shift) (k := z) rfl
  refine Eq.congr_left (roundQuotient_congr (tens_pos _) (tens_pos _) ?_)
  calc n * 10 ^ z * 10 ^ shift.toNat * scale * 10 ^ (-(shift + z)).toNat
      = n * scale * (10 ^ z * (10 ^ shift.toNat * 10 ^ (-(shift + z)).toNat)) := by ring
    _ = n * scale * (10 ^ (shift + z).toNat * 10 ^ (-shift).toNat) := by rw [htens]
    _ = n * 10 ^ (shift + z).toNat * scale * 10 ^ (-shift).toNat := by ring

/-- How many grid steps a number is, as a fraction. -/
theorem below_eq : below units shift =
    (units * 10 ^ (-shift).toNat / (scale * 10 ^ shift.toNat),
      2 * (units * 10 ^ (-shift).toNat % (scale * 10 ^ shift.toNat)),
      scale * 10 ^ shift.toNat) := by
  unfold below
  dsimp only
  split
  case isTrue h =>
    have hzero : (-shift).toNat = 0 := by omega
    rw [hzero, Nat.pow_zero, Nat.mul_one]
    rfl
  case isFalse h =>
    have hzero : shift.toNat = 0 := by omega
    rw [hzero, Nat.pow_zero, Nat.mul_one]
    rfl

/-- The point tried first is the nearest, then the one on the other side. -/
theorem onGrid?_eq (units : Nat) (shift : Int) :
    ∃ other ≤ units * 10 ^ (-shift).toNat / (scale * 10 ^ shift.toNat) + 1,
    onGrid? units shift =
      let nearest := halfEven (units * 10 ^ (-shift).toNat) (scale * 10 ^ shift.toNat)
      if roundsTo units nearest shift then some (.ofScaled nearest shift)
      else if roundsTo units other shift then some (.ofScaled other shift)
      else none := by
  unfold onGrid? halfEven
  rw [below_eq]
  dsimp only
  split
  · exact ⟨_, Nat.le_succ _, rfl⟩
  · exact ⟨_, Nat.le_refl _, rfl⟩

/-- What the search finds on a grid rounds back. -/
theorem exists_of_onGrid? {d : Decimal} (h : onGrid? units shift = some d) :
    ∃ n ≤ units * 10 ^ (-shift).toNat / (scale * 10 ^ shift.toNat) + 1,
      d = .ofScaled n shift ∧ roundsTo units n shift = true := by
  obtain ⟨other, hother, heq⟩ := onGrid?_eq units shift
  rw [heq] at h
  dsimp only at h
  split at h
  case isTrue hrounds =>
    refine ⟨_, halfEven_le (Nat.mul_pos scale_pos (tens_pos _)) ?_, (Option.some.inj h).symm,
      hrounds⟩
    exact Nat.le_of_lt ((Nat.div_lt_iff_lt_mul (Nat.mul_pos scale_pos (tens_pos _))).1
      (Nat.lt_succ_self _))
  case isFalse =>
    split at h
    case isTrue hrounds => exact ⟨other, hother, (Option.some.inj h).symm, hrounds⟩
    case isFalse => cases h

-- ============================================================= digits

/-- A number is between two powers of ten that its digits tell. -/
theorem length_toDigits {n : Nat} (hn : 0 < n) :
    ∃ k, (Nat.toDigits 10 n).length = k + 1 ∧ 10 ^ k ≤ n ∧ n < 10 ^ (k + 1) := by
  have hlength : 0 < (Nat.toDigits 10 n).length := List.length_pos_iff.2 Nat.toDigits_ne_nil
  obtain ⟨k, hk⟩ := Nat.exists_eq_succ_of_ne_zero (Nat.ne_of_gt hlength)
  refine ⟨k, hk, Nat.le_of_not_lt fun hlt => ?_, ?_⟩
  · rcases Nat.eq_zero_or_pos k with rfl | hkpos
    · rw [Nat.pow_zero] at hlt
      omega
    · have hle := (Nat.length_toDigits_le_iff (by decide) hkpos).2 hlt
      omega
  · exact (Nat.length_toDigits_le_iff (by decide) (Nat.succ_pos k)).1 (Nat.le_of_eq hk)

/-- The exponent of the first digit, as powers of ten on either side of the number. -/
theorem decimalExponent_spec (hpos : 0 < units) :
    10 ^ (decimalExponent units).toNat * scale ≤ units * 10 ^ (-decimalExponent units).toNat
      ∧ units * 10 ^ (-(decimalExponent units + 1)).toNat
        < 10 ^ (decimalExponent units + 1).toNat * scale := by
  unfold decimalExponent
  split
  case isTrue hge =>
    obtain ⟨k, hlength, hlow, hhigh⟩ := length_toDigits (Nat.div_pos hge scale_pos)
    rw [hlength]
    have hexp : ((k + 1 : Nat) : Int) - 1 = k := by omega
    have hneg : (-(k : Int)).toNat = 0 := by omega
    have hneg' : (-((k : Int) + 1)).toNat = 0 := by omega
    have hnext : ((k : Int) + 1).toNat = k + 1 := by omega
    rw [hexp, hneg, hneg', hnext, Int.toNat_natCast, Nat.pow_zero, Nat.mul_one]
    exact ⟨(Nat.le_div_iff_mul_le scale_pos).1 hlow, (Nat.div_lt_iff_lt_mul scale_pos).1 hhigh⟩
  case isFalse hlt =>
    have hle : units ≤ scale - 1 := by omega
    obtain ⟨k, hlength, hlow, hhigh⟩ := length_toDigits (Nat.div_pos hle hpos)
    rw [hlength]
    have hexp : (-((k + 1 : Nat) : Int)).toNat = 0 := by omega
    have hneg : (- -((k + 1 : Nat) : Int)).toNat = k + 1 := by omega
    have hneg' : (-(-((k + 1 : Nat) : Int) + 1)).toNat = k := by omega
    have hnext : (-((k + 1 : Nat) : Int) + 1).toNat = 0 := by omega
    rw [hexp, hneg, hneg', hnext, Nat.pow_zero, Nat.one_mul]
    have hlow' := (Nat.le_div_iff_mul_le hpos).1 hlow
    have hhigh' := (Nat.div_lt_iff_lt_mul hpos).1 hhigh
    rw [Nat.mul_comm] at hlow' hhigh'
    omega

/-- Where the grid is that of a digit, the number is that many digits of grid steps. -/
theorem grid_spec (hpos : 0 < units) {k : Nat} (hshift : decimalExponent units = shift + k) :
    10 ^ k * (scale * 10 ^ shift.toNat) ≤ units * 10 ^ (-shift).toNat
      ∧ units * 10 ^ (-shift).toNat < 10 ^ (k + 1) * (scale * 10 ^ shift.toNat) := by
  obtain ⟨hlow, hhigh⟩ := decimalExponent_spec hpos
  have htens := tens_add (k := k) hshift
  have htens' := tens_add (s := decimalExponent units + 1) (t := shift) (k := k + 1)
    (by rw [hshift]; push_cast; ring)
  constructor
  · refine Nat.le_of_mul_le_mul_right ?_ (tens_pos (-decimalExponent units).toNat)
    calc 10 ^ k * (scale * 10 ^ shift.toNat) * 10 ^ (-decimalExponent units).toNat
        = scale * (10 ^ k * (10 ^ shift.toNat * 10 ^ (-decimalExponent units).toNat)) := by ring
      _ = 10 ^ (decimalExponent units).toNat * scale * 10 ^ (-shift).toNat := by
          rw [← htens]
          ring
      _ ≤ units * 10 ^ (-decimalExponent units).toNat * 10 ^ (-shift).toNat :=
          Nat.mul_le_mul_right _ hlow
      _ = units * 10 ^ (-shift).toNat * 10 ^ (-decimalExponent units).toNat :=
          Nat.mul_right_comm ..
  · refine Nat.lt_of_mul_lt_mul_right (a := 10 ^ (-(decimalExponent units + 1)).toNat) ?_
    calc units * 10 ^ (-shift).toNat * 10 ^ (-(decimalExponent units + 1)).toNat
        = units * 10 ^ (-(decimalExponent units + 1)).toNat * 10 ^ (-shift).toNat :=
          Nat.mul_right_comm ..
      _ < 10 ^ (decimalExponent units + 1).toNat * scale * 10 ^ (-shift).toNat :=
          Nat.mul_lt_mul_of_pos_right hhigh (tens_pos _)
      _ = scale * (10 ^ (decimalExponent units + 1).toNat * 10 ^ (-shift).toNat) := by ring
      _ = 10 ^ (k + 1) * (scale * 10 ^ shift.toNat)
            * 10 ^ (-(decimalExponent units + 1)).toNat := by
          rw [htens']
          ring

/-- On the grid of the seventeenth digit the nearest point rounds back. -/
theorem roundsTo_halfEven (hfits : roundQuotient units 1 = units) (hpos : 0 < units)
    (hshift : decimalExponent units = shift + 16) :
    roundsTo units (halfEven (units * 10 ^ (-shift).toNat) (scale * 10 ^ shift.toNat)) shift
      = true := by
  obtain ⟨hlow, -⟩ := grid_spec hpos (k := 16) hshift
  have hden : 0 < scale * 10 ^ shift.toNat := Nat.mul_pos scale_pos (tens_pos _)
  obtain ⟨hup, hdown, -⟩ := halfEven_spec (units * 10 ^ (-shift).toNat) hden
  rw [roundsTo_iff, Nat.mul_assoc, Nat.mul_comm (10 ^ shift.toNat)]
  exact roundQuotient_of_near hfits (tens_pos _) (by omega) (by omega)

/-- What is written of a double are the digits of some number, seventeen at most, with the exponent
at which that number rounds to the double. -/
theorem shortest_spec (hfits : roundQuotient units 1 = units) (hpos : 0 < units) :
    ∃ (m : Nat) (e : Int), 0 < m ∧ m ≤ 10 ^ 17 ∧ roundsTo units m e = true
      ∧ shortest units = ⟨Nat.toDigits 10 m, (Nat.toDigits 10 m).length - 1 + e⟩ := by
  unfold shortest
  dsimp only
  cases hfind : ((List.range 17).map fun (n : Nat) => decimalExponent units - (n : Int)).findSome?
      (onGrid? units) with
  | none =>
      -- the seventeenth digit is still searched for, and there the nearest point does
      have hmem : decimalExponent units - 16
          ∈ (List.range 17).map fun (n : Nat) => decimalExponent units - (n : Int) :=
        List.mem_map.2 ⟨16, by decide, rfl⟩
      have hnone := List.findSome?_eq_none_iff.1 hfind _ hmem
      obtain ⟨other, -, heq⟩ := onGrid?_eq units (decimalExponent units - 16)
      rw [hnone] at heq
      dsimp only at heq
      rw [if_pos (roundsTo_halfEven hfits hpos (by omega))] at heq
      cases heq
  | some d =>
      obtain ⟨shift, hshift, hgrid⟩ := List.exists_of_findSome?_eq_some hfind
      obtain ⟨k, hk, rfl⟩ := List.mem_map.1 hshift
      obtain ⟨n, hn, rfl, hrounds⟩ := exists_of_onGrid? hgrid
      have hn' : n ≤ 10 ^ 17 := by
        have hgrid' : decimalExponent units = decimalExponent units - (k : Int) + k := by omega
        obtain ⟨-, hhigh⟩ := grid_spec hpos hgrid'
        have hdiv := (Nat.div_lt_iff_lt_mul (Nat.mul_pos scale_pos (tens_pos _))).2 hhigh
        exact Nat.le_trans hn (Nat.le_trans hdiv
          (Nat.pow_le_pow_right (by decide) (List.mem_range.1 hk)))
      have hnpos : 0 < n := by
        refine Nat.pos_of_ne_zero ?_
        rintro rfl
        rw [roundsTo_iff, Nat.zero_mul, Nat.zero_mul, roundQuotient_zero] at hrounds
        exact Nat.ne_of_lt hpos hrounds
      obtain ⟨m, z, hm, rfl, hscaled⟩ := Decimal.exists_ofScaled hnpos
        (decimalExponent units - (k : Int))
      refine ⟨m, decimalExponent units - (k : Int) + z, hm, ?_, ?_, hscaled⟩
      · exact Nat.le_trans (Nat.le_mul_of_pos_right m (tens_pos z)) hn'
      · rw [← roundsTo_tens]
        exact hrounds

end Binary64

end ProviderLink
