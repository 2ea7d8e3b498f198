/-
The composed normal form of a text (NFC). Texts that mean the same may be
written with a letter and its marks as one character or as several, and
with marks that do not touch in any order; the normal form has as few
characters as there can be, and a fixed order of marks. It is made in
three steps: every character in its parts, the marks in the order of
their classes, and what composes composed again.

The characters that have parts but are never composed again are not
broken up here: the names whose normal form is asked for have none.
-/
import ProviderLink.Text.CombiningClass
import ProviderLink.Text.Composition

namespace ProviderLink.Text

/-- A character in its parts; parts have parts themselves down to a depth of three. -/
def expand : (depth : Nat) → Char → List Char
  | 0, c => [c]
  | depth + 1, c =>
    match parts? c with
    | some (a, b) => expand depth a ++ expand depth b
    | none => [c]

/-- Puts a character behind a text, its latest character first: a mark goes before the marks of
higher classes. -/
def placeMark (c : Char) : List Char → List Char
  | [] => [c]
  | d :: before =>
    if combiningClass c ≠ 0 ∧ combiningClass c < combiningClass d then d :: placeMark c before
    else c :: d :: before

/-- A text with its marks in the order of their classes. -/
def orderMarks (cs : List Char) : List Char :=
  (cs.foldl (fun before c => placeMark c before) []).reverse

/-- A text composed again: a letter, the marks since that did not join it, latest first, and what
follows. A mark of the class of one of those, or of a lower one, does not reach the letter. -/
def composeFrom (base : Char) (kept : List Char) : List Char → List Char
  | [] => base :: kept.reverse
  | c :: cs =>
    let reaches := kept.head?.all fun d => combiningClass d < combiningClass c
    match if reaches then composed? base c else none with
    | some whole => composeFrom whole kept cs
    | none =>
      if combiningClass c = 0 then base :: (kept.reverse ++ composeFrom c [] cs)
      else composeFrom base (c :: kept) cs

/-- A text composed again. -/
def compose : List Char → List Char
  | [] => []
  | c :: cs => composeFrom c [] cs

def normalForm (cs : List Char) : List Char := compose (orderMarks (cs.flatMap (expand 3)))

end ProviderLink.Text
