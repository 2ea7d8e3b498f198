/-
Version requirements. A requirement is `*`, or up to 32 comparators
between commas, all of which a version must meet. A comparator names a
version in part or whole and an operator; without an operator it asks
for a compatible version. Only releases are held against a requirement
here, and a release comes after all pre-releases of its numbers, so of a
pre-release in a comparator it matters that there is one.
-/
import ProviderLink.Number
import ProviderLink.Text.Split

namespace ProviderLink.Version

/-- A released version. -/
structure Release where
  major : Nat
  minor : Nat
  patch : Nat
  deriving DecidableEq, Repr

/-- How a comparator compares. -/
inductive Operator
  | exact
  | greater
  | greaterEq
  | less
  | lessEq
  /-- Patches may differ. -/
  | tilde
  /-- All to the right of the first number that is not zero may differ. -/
  | caret
  deriving DecidableEq, Repr

/-- A comparator; a number that is left out may be any. -/
structure Comparator where
  operator : Operator
  major : Nat
  minor : Option Nat
  patch : Option Nat
  prerelease : Option String
  deriving DecidableEq, Repr

/-- What a version is required to be: all of some comparators. -/
abbrev Requirement := List Comparator

-- ============================================================= meaning

namespace Comparator

/-- The release has the numbers of the comparator, and this is no pre-release. -/
def isExact (c : Comparator) (v : Release) : Bool :=
  v.major == c.major && c.minor.all (v.minor == ·) && c.patch.all (v.patch == ·) &&
    c.prerelease.isNone

/-- The release comes after the comparator's version and everything it leaves open. -/
def isAfter (c : Comparator) (v : Release) : Bool :=
  if v.major ≠ c.major then c.major < v.major
  else match c.minor, c.patch with
  | none, _ => false
  | some minor, patch =>
    if v.minor ≠ minor then minor < v.minor
    else match patch with
    | none => false
    | some patch => if v.patch ≠ patch then patch < v.patch else c.prerelease.isSome

/-- The release comes before the comparator's version and everything it leaves open. -/
def isBefore (c : Comparator) (v : Release) : Bool :=
  if v.major ≠ c.major then v.major < c.major
  else match c.minor, c.patch with
  | none, _ => false
  | some minor, patch =>
    if v.minor ≠ minor then v.minor < minor
    else match patch with
    | none => false
    | some patch => v.patch < patch

/-- The release differs from the comparator at most in a later patch. -/
def isTilde (c : Comparator) (v : Release) : Bool :=
  v.major == c.major && c.minor.all (v.minor == ·) && c.patch.all (· ≤ v.patch)

/-- The release is compatible with the comparator's version and not before it. -/
def isCaret (c : Comparator) (v : Release) : Bool :=
  v.major == c.major &&
    match c.minor, c.patch with
    | none, _ => true
    | some minor, none => if 0 < c.major then minor ≤ v.minor else v.minor == minor
    | some minor, some patch =>
      if 0 < c.major then minor < v.minor || (v.minor == minor && patch ≤ v.patch)
      else if 0 < minor then v.minor == minor && patch ≤ v.patch
      else v.minor == minor && v.patch == patch

/-- Whether a release meets the comparator. -/
def accepts (c : Comparator) (v : Release) : Bool :=
  match c.operator with
  | .exact => c.isExact v
  | .greater => c.isAfter v
  | .greaterEq => c.isExact v || c.isAfter v
  | .less => c.isBefore v
  | .lessEq => c.isExact v || c.isBefore v
  | .tilde => c.isTilde v
  | .caret => c.isCaret v

end Comparator

/-- Whether a release meets the requirement. -/
def Requirement.accepts (r : Requirement) (v : Release) : Bool := r.all (Comparator.accepts · v)

-- ============================================================= reading

/-- Drops spaces at the beginning. -/
def dropSpaces (cs : List Char) : List Char := cs.dropWhile (· == ' ')

/-- The operator at the beginning, if there is one. -/
def operator? : List Char → Option Operator × List Char
  | '>' :: '=' :: cs => (some .greaterEq, cs)
  | '<' :: '=' :: cs => (some .lessEq, cs)
  | '=' :: cs => (some .exact, cs)
  | '>' :: cs => (some .greater, cs)
  | '<' :: cs => (some .less, cs)
  | '~' :: cs => (some .tilde, cs)
  | '^' :: cs => (some .caret, cs)
  | cs => (none, cs)

/-- A number of 64 bits without leading zeros. -/
def number? (cs : List Char) : Option (Nat × List Char) := do
  let digits ← Number.Numeral.whole? (cs.takeWhile Char.isDigit)
  let n := Number.Numeral.digitsValue digits
  if n < 0x10000000000000000 then some (n, cs.drop digits.length) else none

/-- Whether a character stands for any number. -/
def isWildcard (c : Char) : Bool := c == '*' || c == 'x' || c == 'X'

/-- The minor or patch number of a comparator. -/
inductive Part
  | absent
  | wildcard
  | number (n : Nat)
  deriving DecidableEq, Repr

/-- The number, if one is given. -/
def Part.value? : Part → Option Nat
  | number n => some n
  | _ => none

/-- A point and what follows it. -/
def part? : List Char → Option (Part × List Char)
  | '.' :: cs =>
    match cs with
    | c :: rest => if isWildcard c then some (.wildcard, rest) else numbered cs
    | [] => none
  | cs => some (.absent, cs)
where
  numbered (cs : List Char) : Option (Part × List Char) :=
    (number? cs).map fun (n, rest) => (.number n, rest)

/-- Whether a character may stand in an identifier. -/
def isIdentifierChar (c : Char) : Bool := c.isAlphanum || c == '-'

/-- Whether a segment of an identifier is well formed; a number has no leading zeros where that is
asked. -/
def isSegment (strict : Bool) (s : List Char) : Bool :=
  s ≠ [] && !(strict && s.all Char.isDigit && s.length ≠ 1 && s.head? == some '0')

/-- An identifier: segments between points. -/
def identifier? (strict : Bool) (cs : List Char) : Option (String × List Char) :=
  let text := cs.takeWhile fun c => isIdentifierChar c || c == '.'
  if (Text.pieces '.' text).all (isSegment strict) then
    some (String.ofList text, cs.drop text.length)
  else none

/-- An identifier after a mark, if the mark is there. -/
def marked? (mark : Char) (strict : Bool) (cs : List Char) : Option (Option String × List Char) :=
  match cs with
  | c :: rest =>
    if c = mark then (identifier? strict rest).map fun (s, rest) => (some s, rest)
    else some (none, cs)
  | [] => some (none, [])

/-- What follows the numbers: a pre-release and a build, and only after a patch number. -/
def suffixes? (patch : Part) (cs : List Char) : Option (Option String × List Char) :=
  match patch with
  | .number _ => do
    let (prerelease, rest) ← marked? '-' true cs
    let (_, rest) ← marked? '+' false rest
    return (prerelease, rest)
  | _ => some (none, cs)

/-- A comparator that takes up a whole text; after a wildcard no number may follow. A wildcard
without an operator asks for exactly what is given. -/
def comparator? (cs : List Char) : Option Comparator := do
  let (operator, rest) := operator? cs
  let (major, rest) ← number? (dropSpaces rest)
  let (minor, rest) ← part? rest
  let (patch, rest) ← part? rest
  if minor = .wildcard ∧ patch.value?.isSome then none
  let (prerelease, rest) ← suffixes? patch rest
  if dropSpaces rest ≠ [] then none
  let anyPart := minor = .wildcard ∨ patch = .wildcard
  return {
    operator := operator.getD (if anyPart then .exact else .caret)
    major
    minor := minor.value?
    patch := patch.value?
    prerelease }

/-- The most comparators of a requirement. -/
def maxComparators : Nat := 32

/-- Whether a text is a wildcard alone. -/
def isAny : List Char → Bool
  | c :: cs => isWildcard c && (dropSpaces cs).isEmpty
  | [] => false

/-- The requirement of a text. -/
def Requirement.ofChars? (cs : List Char) : Option Requirement :=
  let cs := dropSpaces cs
  if isAny cs then some []
  else
    let texts := Text.pieces ',' cs
    if texts.length ≤ maxComparators then texts.mapM fun text => comparator? (dropSpaces text)
    else none

def Requirement.ofText? (s : String) : Option Requirement := ofChars? s.toList

end ProviderLink.Version
