/-
Characters of a kind. Blank is the Unicode property White_Space,
twenty-five characters in all; the zero-width space is not one of them.
Larger sets are given by ranges of code points, both ends included, and so
are functions of characters that are constant on ranges. Digits are those
of number systems up to base 16.
-/
namespace ProviderLink.Text

-- ============================================================== blanks

/-- The property White_Space. -/
def isBlank (c : Char) : Bool :=
  let n := c.toNat
  (9 ≤ n && n ≤ 13) || n == 0x20 || n == 0x85 || n == 0xa0 || n == 0x1680 ||
    (0x2000 ≤ n && n ≤ 0x200a) || n == 0x2028 || n == 0x2029 || n == 0x202f || n == 0x205f ||
    n == 0x3000

/-- A text without the blanks at its two ends. -/
def trim (s : List Char) : List Char :=
  ((s.dropWhile isBlank).reverse.dropWhile isBlank).reverse

/-- Nothing but blanks. -/
def allBlank (s : String) : Bool := s.toList.all isBlank

/-- Blanks at neither end. -/
def isTrimmed (s : String) : Bool := trim s.toList == s.toList

-- ============================================================== ranges

def inRanges (ranges : List (Nat × Nat)) (c : Char) : Bool :=
  ranges.any fun (first, last) => first ≤ c.toNat && c.toNat ≤ last

/-- The value of the first range that a character is in. -/
def rangeValue? {α : Type} (ranges : List (Nat × Nat × α)) (c : Char) : Option α :=
  (ranges.find? fun (first, last, _) => first ≤ c.toNat && c.toNat ≤ last).map fun (_, _, x) => x

-- ============================================================== digits

/-- The value of a hexadecimal digit. -/
def hexDigit? (c : Char) : Option Nat :=
  if c.isDigit then some (c.toNat - 48)
  else if 'a' ≤ c ∧ c ≤ 'f' then some (c.toNat - 87)
  else if 'A' ≤ c ∧ c ≤ 'F' then some (c.toNat - 55)
  else none

/-- The value of a digit of a base up to 16. -/
def digit? (base : Nat) (c : Char) : Option Nat := (hexDigit? c).filter (· < base)

/-- The number that digits of a base stand for; a character that is none counts as zero. -/
def valueOf (base : Nat) (digits : List Char) : Nat :=
  digits.foldl (fun n c => base * n + (hexDigit? c).getD 0) 0

end ProviderLink.Text
