/-
Reading the ASCII form of a label that has other characters. The ASCII
characters of the label come first; each further character is a number
that says how far the code point and the place of insertion move on, in
digits whose weights follow the size of the numbers before.
-/
import ProviderLink.Text.Character

namespace ProviderLink.Url.Punycode

/-- The value of a digit of base 36. -/
def digit? (c : Char) : Option Nat :=
  if 'a' ≤ c ∧ c ≤ 'z' then some (c.toNat - 97)
  else if 'A' ≤ c ∧ c ≤ 'Z' then some (c.toNat - 65)
  else if c.isDigit then some (c.toNat - 48 + 26)
  else none

/-- From which value on a digit at this place is followed by another. -/
def threshold (bias place : Nat) : Nat := min 26 (max 1 (36 * place - bias))

/-- Numbers and weights stay below this. -/
def numberLimit : Nat := 0x100000000

/-- The number at the beginning added to `start`, its digits from the least weight up, and what
follows. -/
def addNumber? (bias place weight start : Nat) : List Char → Option (Nat × List Char)
  | [] => none
  | c :: cs => do
    let d ← digit? c
    let sum := start + d * weight
    if numberLimit ≤ sum then none
    let t := threshold bias place
    if d < t then return (sum, cs)
    let weight := weight * (36 - t)
    if numberLimit ≤ weight then none
    addNumber? bias (place + 1) weight sum cs

/-- Divides a step by 35 until it is small, and counts 36 for each time. -/
def shrink (delta : Nat) : Nat × Nat :=
  if 455 < delta then
    let (count, small) := shrink (delta / 35)
    (count + 36, small)
  else (0, delta)

/-- The bias after a step, for a label that has so many characters then. -/
def nextBias (step count : Nat) (first : Bool) : Nat :=
  let delta := if first then step / 700 else step / 2
  let (shift, small) := shrink (delta + delta / count)
  shift + 36 * small / (small + 38)

/-- The first code point past ASCII. -/
def initialCode : Nat := 128

/-- The bias before any number. -/
def initialBias : Nat := 72

/-- Puts in the characters that numbers stand for, from a code point and a place on. A number takes
at least one digit, so there are no more of them than `fuel`. -/
def insertAll (code place bias : Nat) (label : List Char) :
    (fuel : Nat) → List Char → Option (List Char)
  | _, [] => some label
  | 0, _ :: _ => none
  | fuel + 1, cs => do
    let (sum, rest) ← addNumber? bias 1 1 place cs
    let count := label.length + 1
    let code := code + sum / count
    let spot := sum % count
    if ¬ code.isValidChar then none
    insertAll code (spot + 1) (nextBias (sum - place) count (place = 0))
      (label.take spot ++ Char.ofNat code :: label.drop spot) fuel rest

/-- What stands before the last hyphen, and what follows it; all follows if nothing stands before
one. -/
def splitLast (cs : List Char) : List Char × List Char :=
  let tail := (cs.reverse.takeWhile (· != '-')).reverse
  let head := cs.take (cs.length - tail.length - 1)
  if head = [] then ([], cs) else (head, tail)

/-- The label of an ASCII form. -/
def decode? (cs : List Char) : Option (List Char) :=
  let (basic, numbers) := splitLast cs
  insertAll initialCode 0 initialBias basic numbers.length numbers

end ProviderLink.Url.Punycode
