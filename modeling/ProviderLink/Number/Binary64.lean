/-
Finite binary64 numbers in exact arithmetic. Every finite double is a
whole number of least positive doubles (2^-1074), so a sign and that
count are the number, and each operation is integer arithmetic followed
by one rounding: to 53 significant bits, a tie to the even neighbour.
Nothing here computes in machine floats, whose operations a proof cannot
see; a result past the largest double is `none`.
-/
namespace ProviderLink

namespace Binary64

/-- Least positive doubles in one. -/
def scale : Nat := Nat.pow 2 1074

/-- The bits of the largest count of least positive doubles in range. -/
def limitBits : Nat := 2098

/-- The first count of least positive doubles that is out of range: 2^1024. -/
def limit : Nat := Nat.pow 2 limitBits

/-- The number of 53 significant bits (fewer below 2^53) nearest to `num / den`;
of two equally near the one whose last bit is 0. -/
def roundQuotient (num den : Nat) : Nat :=
  let step := Nat.pow 2 (Nat.log2 (num / den) - 52)
  let unit := den * step
  let below := num / unit
  let rest := num % unit
  let up := unit < 2 * rest || (unit == 2 * rest && below % 2 == 1)
  (if up then below + 1 else below) * step

/-- What a count of least positive doubles must meet to be a finite double. -/
def Fits (units : Nat) : Prop := roundQuotient units 1 = units ∧ units < limit

instance (units : Nat) : Decidable (Fits units) :=
  inferInstanceAs (Decidable (_ ∧ _))

end Binary64

/-- A finite double; the two zeros differ in sign. -/
structure Binary64 where
  /-- Whether the sign bit is set. -/
  negative : Bool
  /-- The magnitude in least positive doubles. -/
  units : Nat
  fits : Binary64.Fits units
  deriving DecidableEq

namespace Binary64

-- ============================================================ rounding

/-- The double nearest to `num / den` least positive doubles. -/
def ofUnits (negative : Bool) (num den : Nat) : Option Binary64 :=
  let units := roundQuotient num den
  if h : Fits units then some ⟨negative, units, h⟩ else none

/-- The double nearest to the quotient `num / den`. -/
def ofQuotient (negative : Bool) (num den : Nat) : Option Binary64 :=
  ofUnits negative (num * scale) den

/-- The double nearest to a whole number. -/
def ofInt (i : Int) : Option Binary64 := ofQuotient (i < 0) i.natAbs 1

/-- Zero is a double. -/
theorem fits_zero : Fits 0 := by
  have hpos : ∀ bits, 0 < Nat.pow 2 bits := Nat.two_pow_pos
  unfold Fits limit
  exact ⟨by simp [roundQuotient], hpos limitBits⟩

/-- Zero with a sign. -/
def zero (negative : Bool) : Binary64 := ⟨negative, 0, fits_zero⟩

/-- The double nearest to `digits * 10 ^ exponent`. A decimal from `10 ^ 309` up is past the
largest double and one below `10 ^ -330` rounds to zero, whatever its digits are. -/
def ofDecimal (negative : Bool) (digits : Nat) (exponent : Int) : Option Binary64 :=
  let places := (Nat.toDigits 10 digits).length + exponent
  if digits = 0 ∨ places < -330 then some (zero negative)
  else if 309 < places then none
  else if exponent ≥ 0 then ofQuotient negative (digits * Nat.pow 10 exponent.toNat) 1
  else ofQuotient negative digits (Nat.pow 10 (-exponent).toNat)

-- ========================================================== arithmetic

/-- The rounded product of the magnitudes, under the first sign. -/
def scaleUp (x : Binary64) (factor : Binary64) : Option Binary64 :=
  ofUnits x.negative (x.units * factor.units) scale

/-- The rounded quotient of the magnitudes, under the first sign. -/
def scaleDown (x : Binary64) (divisor : Binary64) : Option Binary64 :=
  ofUnits x.negative (x.units * scale) divisor.units

/-- Twice the number. -/
def double (x : Binary64) : Option Binary64 := ofUnits x.negative (2 * x.units) 1

-- ============================================== scaling by powers of ten

/-- The double nearest to a power of ten, up to `10 ^ 308`. -/
def powerOfTen (n : Nat) : Option Binary64 := ofQuotient false (Nat.pow 10 n) 1

/-- Divides by `10 ^ n` in steps of at most `10 ^ 308`, each rounded. -/
def scaleDownByTens (x : Binary64) (n : Nat) : Option Binary64 :=
  if _h : n ≤ 308 then do x.scaleDown (← powerOfTen n)
  else if x.units = 0 then some x
  else do
    let y ← x.scaleDown (← powerOfTen 308)
    scaleDownByTens y (n - 308)
  termination_by n

/--
A decimal read with one rounding of its digits, one of the power of ten and
one of their product or quotient. For at most 15 digits and powers up to
`10 ^ 22` that is the nearest double; beyond, it may be a neighbour of it.
-/
def ofScaledDecimal (negative : Bool) (digits : Nat) (exponent : Int) : Option Binary64 := do
  let x ← ofQuotient negative digits 1
  if exponent < 0 then x.scaleDownByTens (-exponent).toNat
  else if exponent ≤ 308 then x.scaleUp (← powerOfTen exponent.toNat)
  else if digits = 0 then some x
  else none

end Binary64

end ProviderLink
