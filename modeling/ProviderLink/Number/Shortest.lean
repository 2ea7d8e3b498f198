/-
The shortest decimal of a double: the fewest digits that round back to
it, and of those the nearest. For one digit, two digits and so on, the
two neighbours of the number on that decimal grid are tried by rounding
them; a tie between the neighbours goes to the even one. Seventeen
digits always suffice; the exact expansion stands behind them so that
the result rounds back in every case.
-/
import ProviderLink.Number.Binary64

namespace ProviderLink

/-- A positive number in decimal: `0.d₁d₂…` times `10 ^ (exponent + 1)`, so that
`exponent` is that of the first digit. Neither end of the digits is zero. -/
structure Decimal where
  digits : List Char
  exponent : Int
  deriving DecidableEq, Repr

namespace Decimal

/-- `n * 10 ^ shift` without the zeros at the end of `n`. -/
def ofScaled (n : Nat) (shift : Int) : Decimal :=
  let digits := Nat.toDigits 10 n
  ⟨(digits.reverse.dropWhile (· == '0')).reverse, digits.length - 1 + shift⟩

end Decimal

namespace Binary64

/-- The exponent of the first decimal digit of `units` least positive doubles. -/
def decimalExponent (units : Nat) : Int :=
  if units ≥ scale then ((Nat.toDigits 10 (units / scale)).length : Int) - 1
  else -((Nat.toDigits 10 ((scale - 1) / units)).length : Int)

/-- Whether `n * 10 ^ shift` rounds to `units` least positive doubles. -/
def roundsTo (units n : Nat) (shift : Int) : Bool :=
  if shift ≥ 0 then roundQuotient (n * Nat.pow 10 shift.toNat * scale) 1 == units
  else roundQuotient (n * scale) (Nat.pow 10 (-shift).toNat) == units

/-- The grid point `n * 10 ^ shift` just below, and twice how far `units` is past it, in
parts of a grid step: the numerator and the denominator. -/
def below (units : Nat) (shift : Int) : Nat × Nat × Nat :=
  let num := if shift ≥ 0 then units else units * Nat.pow 10 (-shift).toNat
  let den := if shift ≥ 0 then scale * Nat.pow 10 shift.toNat else scale
  (num / den, 2 * (num % den), den)

/-- The nearer of the two neighbours on a decimal grid that rounds back, if one does. -/
def onGrid? (units : Nat) (shift : Int) : Option Decimal :=
  let (n, twice, one) := below units shift
  let upFirst := one < twice || (one == twice && n % 2 == 1)
  let (first, second) := if upFirst then (n + 1, n) else (n, n + 1)
  if roundsTo units first shift then some (.ofScaled first shift)
  else if roundsTo units second shift then some (.ofScaled second shift)
  else none

/-- The decimal of a positive magnitude with the fewest digits. -/
def shortest (units : Nat) : Decimal :=
  let top := decimalExponent units
  let grids := (List.range 17).map fun (n : Nat) => top - (n : Int)
  (grids.findSome? (onGrid? units)).getD (.ofScaled (units * Nat.pow 5 1074) (-1074))

end Binary64

end ProviderLink
