/-
What the characters of a domain name stand for. Some vanish, some are
refused, and all others are brought into one form: small letters without
the differences of style that a name does not keep.
-/
import ProviderLink.Text.Invisible
import ProviderLink.Url.Domain.Folding
import ProviderLink.Url.Domain.Joining
import ProviderLink.Url.Domain.Variant

namespace ProviderLink.Url.Domain

open Text

/-- Characters that vanish. -/
def ignoredRanges : List (Nat × Nat) :=
  [(0xad, 0xad), (0x34f, 0x34f), (0x115f, 0x1160), (0x17b4, 0x17b5), (0x180b, 0x180f),
   (0x200b, 0x200b), (0x2060, 0x2064), (0x206a, 0x206f), (0x3164, 0x3164), (0xfe00, 0xfe0f),
   (0xfeff, 0xfeff), (0xffa0, 0xffa0), (0x1bca0, 0x1bca3), (0x1d173, 0x1d17a), (0xe0100, 0xe01ef)]

/-- Refused although they show: full stops within a character, characters that describe others,
and those that stand for a space or for a mark of URLs among other characters. -/
def refusedRanges : List (Nat × Nat) :=
  [(0xa8, 0xa8), (0xaf, 0xaf), (0xb4, 0xb4), (0xb8, 0xb8), (0x2d8, 0x2dd), (0x37a, 0x37a),
   (0x384, 0x385), (0x1fbd, 0x1fbd), (0x1fbf, 0x1fc1), (0x1fcd, 0x1fcf), (0x1fdd, 0x1fdf),
   (0x1fed, 0x1fee), (0x1ffd, 0x1ffe), (0x2017, 0x2017), (0x2024, 0x2026), (0x203e, 0x203e),
   (0x2047, 0x2049), (0x2100, 0x2101), (0x2105, 0x2106), (0x2488, 0x249b), (0x2a74, 0x2a74),
   (0x2ff0, 0x2fff), (0x309b, 0x309c), (0x31ef, 0x31ef), (0x33c2, 0x33c2), (0x33c7, 0x33c7),
   (0x33d8, 0x33d8), (0xfc5e, 0xfc63), (0xfdfa, 0xfdfb), (0xfe12, 0xfe12), (0xfe19, 0xfe19),
   (0xfe30, 0xfe30), (0xfe49, 0xfe4c), (0xfe52, 0xfe52), (0xfe70, 0xfe70), (0xfe72, 0xfe72),
   (0xfe74, 0xfe74), (0xfe76, 0xfe76), (0xfe78, 0xfe78), (0xfe7a, 0xfe7a), (0xfe7c, 0xfe7c),
   (0xfe7e, 0xfe7e), (0xffe3, 0xffe3), (0xfffc, 0xfffd), (0x1f100, 0x1f100)]

/-- Characters too new for a quoted text to show, which a name may have. -/
def newRanges : List (Nat × Nat) :=
  [(0x208f, 0x208f), (0x209d, 0x209f), (0x20c2, 0x20cf), (0x2e5e, 0x2e7f), (0xa7dd, 0xa7f0),
   (0x10ec8, 0x10ecf), (0x10ed9, 0x10ef9), (0x12550, 0x1268f), (0x16d80, 0x16daf),
   (0x18e00, 0x1919f), (0x191a0, 0x191df), (0x1d250, 0x1d28f), (0x1db00, 0x1dbff),
   (0x1f6d9, 0x1f6d9), (0x1fa8b, 0x1fa8d), (0x1facb, 0x1facb), (0x1fadd, 0x1fadd),
   (0x1faeb, 0x1faeb), (0x1faf9, 0x1fafa), (0x3d000, 0x3fc3f)]

/-- Whether a character above ASCII is refused. -/
def isRefused (c : Char) : Bool :=
  inRanges refusedRanges c || (isInvisible c && !inRanges newRanges c)

/-- What a character above ASCII stands for, if it is not refused. -/
def foreign? (c : Char) : Option (List Char) :=
  if isJoiner c then some [c]
  else if inRanges ignoredRanges c then some []
  else if isRefused c then none
  else some ((((folded? c).map fun d => [d]).or (variant? c)).getD [c])

/-- What a character stands for, if it is not refused. -/
def stands? (c : Char) : Option (List Char) :=
  if c.toNat < 128 then some [c.toLower] else foreign? c

/-- A text with what its characters stand for. -/
def resolve? : List Char → Option (List Char)
  | [] => some []
  | c :: cs => do
    let now ← stands? c
    let later ← resolve? cs
    return now ++ later

end ProviderLink.Url.Domain
