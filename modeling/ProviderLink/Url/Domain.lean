/-
Domain names of URLs. A name is taken character by character into its
plain form (Url/Domain/Mapping), brought into normal form, and cut into
labels at the points. A label in ASCII form must stand for a label that
is its own plain form; no label may begin with a mark, every joiner in
it needs a reason, and if any character of the name is written from right
to left, every label must keep one direction.
-/
import ProviderLink.Text.NormalForm
import ProviderLink.Url.Domain.Direction
import ProviderLink.Url.Domain.Mapping
import ProviderLink.Url.Punycode

namespace ProviderLink.Url.Domain

open Text

/-- Whether a character is above ASCII. -/
def isForeign (c : Char) : Bool := 128 ≤ c.toNat

/-- Whether an ASCII character may not stand in a domain name. -/
def isForbidden (c : Char) : Bool :=
  c ≤ ' ' || c.toNat == 127 || "%#/:<>?@[\\]^|".toList.contains c

/-- The plain form of a text. -/
def plain? (cs : List Char) : Option (List Char) := (resolve? cs).map normalForm

-- ============================================================== labels

/-- How a label in ASCII form begins. -/
def asciiFormStart : List Char := ['x', 'n', '-', '-']

/-- How long an ASCII form may be behind its beginning. -/
def maxForm : Nat := 2000

/-- How long a label with characters above ASCII may be. -/
def maxForeign : Nat := 1000

/-- Whether a label is in order by itself. -/
def isLabel (label : List Char) : Bool :=
  !label.head?.any isMark && joinersFit [] label &&
    !(label.any isForeign && maxForeign < label.length)

/-- The label of an ASCII form; it is its own plain form, and one label. -/
def decodeForm? (form : List Char) : Option (List Char) := do
  if form.any isForeign ∨ form.getLast?.all (· == '-') ∨ maxForm < form.length then none
  let label ← Punycode.decode? form
  if plain? label = some label ∧ !label.any (fun c => isForbidden c || c == '.') then some label
  else none

/-- A label of a name in plain form, in its own characters. -/
def label? (label : List Char) : Option (List Char) := do
  let label ← match after? asciiFormStart label with
    | none => some label
    | some form => decodeForm? form
  if isLabel label then some label else none

-- =============================================================== names

/-- The plain form of a domain name. -/
def ofChars? (cs : List Char) : Option (List Char) := do
  let name ← plain? cs
  if name.any isForbidden then none
  let labels ← (pieces '.' name).mapM label?
  if labels.any isBidirectional && !labels.all keepsDirection then none
  return name

end ProviderLink.Url.Domain
