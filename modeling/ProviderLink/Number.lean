/-
Numbers as JSON writes them. An integer that 64 bits can hold, signed or
unsigned, stays an integer; every other number is a double, `-0` among
them, and which of the two it is survives from reading to printing. The
digits of a double are the fewest that round back to it.
-/
import ProviderLink.Number.Shortest

namespace ProviderLink

/-- A number of a JSON text. -/
inductive Number
  /-- An integer of the signed or the unsigned 64-bit range. -/
  | int (value : Int) (fits : -0x8000000000000000 ≤ value ∧ value < 0x10000000000000000)
  | float (value : Binary64)
  deriving DecidableEq

namespace Number

/-- An integer, if 64 bits can hold it. -/
def ofInt? (i : Int) : Option Number :=
  if h : -0x8000000000000000 ≤ i ∧ i < 0x10000000000000000 then some (.int i h) else none

/-- A signed 64-bit integer. -/
def ofInt64 (i : Int64) : Number :=
  .int i.toInt ⟨by have := Int64.le_toInt i; omega, by have := Int64.toInt_lt i; omega⟩

/-- A signed 32-bit integer. -/
def ofInt32 (i : Int32) : Number :=
  .int i.toInt ⟨by have := Int32.le_toInt i; omega, by have := Int32.toInt_lt i; omega⟩

/-- An unsigned 32-bit integer. -/
def ofUInt32 (i : UInt32) : Number :=
  .int i.toNat ⟨by omega, by have := i.toNat_lt; omega⟩

/-- The nearest double. -/
def toFloat : Number → Option Binary64
  | .int i _ => Binary64.ofInt i
  | .float x => some x

-- ============================================================ numerals

/-- The parts of a numeral: what stands before and after the point, and the exponent. -/
structure Numeral where
  negative : Bool
  whole : List Char
  fraction : Option (List Char)
  exponent : Option Int
  deriving DecidableEq, Repr

namespace Numeral

/-- The number that a list of decimal digits stands for. -/
def digitsValue (ds : List Char) : Nat := ds.foldl (fun n d => 10 * n + (d.toNat - 48)) 0

/-- Digits, at least one. -/
def digits? (cs : List Char) : Option (List Char) :=
  if cs ≠ [] ∧ cs.all Char.isDigit then some cs else none

/-- An exponent with its optional sign. -/
def exponent? : List Char → Option Int
  | '+' :: ds => (digits? ds).map fun ds => digitsValue ds
  | '-' :: ds => (digits? ds).map fun ds => -(digitsValue ds : Int)
  | ds => (digits? ds).map fun ds => digitsValue ds

/-- A whole part: a zero alone, or digits that start with another. -/
def whole? (cs : List Char) : Option (List Char) := do
  let ds ← digits? cs
  if ds.head? = some '0' ∧ ds.length ≠ 1 then none else some ds

/-- The parts of a numeral without its sign. -/
def unsigned? (negative : Bool) (cs : List Char) : Option Numeral := do
  let mantissa := cs.takeWhile fun c => c != 'e' && c != 'E'
  let exponent ← match cs.drop mantissa.length with
    | [] => some none
    | _ :: rest => (exponent? rest).map some
  let whole ← whole? (mantissa.takeWhile (· != '.'))
  let fraction ← match mantissa.dropWhile (· != '.') with
    | [] => some none
    | _ :: rest => (digits? rest).map some
  return ⟨negative, whole, fraction, exponent⟩

/-- The parts of a text that is a numeral. -/
def ofChars? : List Char → Option Numeral
  | '-' :: cs => unsigned? true cs
  | cs => unsigned? false cs

/-- Digits taken up one by one while the number stays below `2 ^ 64`, and those left over. -/
def absorb (n : Nat) : List Char → Nat × List Char
  | [] => (n, [])
  | d :: ds =>
    let m := 10 * n + (d.toNat - 48)
    if m < 0x10000000000000000 then absorb m ds else (n, d :: ds)

/-- The double a numeral stands for, from its leading digits; `none` past the largest double. -/
def toFloat (n : Numeral) : Option Binary64 :=
  let (high, dropped) := absorb 0 n.whole
  let fraction := n.fraction.getD []
  let (all, unused) := absorb high fraction
  let shift := (dropped.length : Int) - (fraction.length - unused.length : Nat)
  Binary64.ofScaledDecimal n.negative all (shift + n.exponent.getD 0)

end Numeral

/-- The number of a text: an integer if it has neither point nor exponent and 64 bits can
hold it. -/
def ofChars? (cs : List Char) : Option Number := do
  let n ← Numeral.ofChars? cs
  let float := n.toFloat.map Number.float
  if n.fraction.isSome || n.exponent.isSome then float
  else
    let value := Numeral.digitsValue n.whole
    if n.negative then
      if value = 0 then float else (ofInt? (-(value : Int))).or float
    else (ofInt? value).or float

-- ============================================================ printing

/-- The digits of a double with a point or with an exponent: the exponent of the first digit
is written from `e+16` up and from `e-6` down. -/
def decimalChars (d : Decimal) : List Char :=
  let count : Int := d.digits.length
  if 0 ≤ d.exponent ∧ d.exponent ≤ 15 then
    if count ≤ d.exponent + 1 then
      d.digits ++ List.replicate (d.exponent + 1 - count).toNat '0' ++ ['.', '0']
    else
      d.digits.take (d.exponent + 1).toNat ++ ['.'] ++ d.digits.drop (d.exponent + 1).toNat
  else if -5 ≤ d.exponent ∧ d.exponent < 0 then
    ['0', '.'] ++ List.replicate (-d.exponent - 1).toNat '0' ++ d.digits
  else
    let sign := if d.exponent < 0 then '-' else '+'
    d.digits.take 1 ++ (if count = 1 then [] else '.' :: d.digits.drop 1) ++
      ['e', sign] ++ Nat.toDigits 10 d.exponent.natAbs

/-- The text of a double. -/
def floatChars (x : Binary64) : List Char :=
  (if x.negative then ['-'] else []) ++
    if x.units = 0 then ['0', '.', '0'] else decimalChars (Binary64.shortest x.units)

/-- The text of an integer. -/
def intChars (i : Int) : List Char :=
  (if i < 0 then ['-'] else []) ++ Nat.toDigits 10 i.natAbs

/-- The text of a number. -/
def chars : Number → List Char
  | .int i _ => intChars i
  | .float x => floatChars x

def text (n : Number) : String := String.ofList n.chars

end Number

end ProviderLink
