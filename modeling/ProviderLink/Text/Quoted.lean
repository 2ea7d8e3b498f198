/-
Quoted names in messages. A name stands between double quotes, with a
backslash before a quote and before a backslash, the short escapes for
tab, line ends and NUL, and the number of every character that cannot be
seen — a control, one that shows nothing, one that would attach to the
quote before it: two messages about different names are never the same
text.
-/
import ProviderLink.Text.Invisible
import ProviderLink.Text.Mark

namespace ProviderLink.Text

/-- Whether a character is a control, shows nothing or attaches to another; the space shows. -/
def isUnprintable (c : Char) : Bool :=
  c.val < 0x20 || c.val == 0x7f || isInvisible c || isExtending c

/-- A character inside quotes. -/
def quotedChar (c : Char) : List Char :=
  if c = '"' then ['\\', '"']
  else if c = '\\' then ['\\', '\\']
  else if c = '\t' then ['\\', 't']
  else if c = '\n' then ['\\', 'n']
  else if c = '\r' then ['\\', 'r']
  else if c = Char.ofNat 0 then ['\\', '0']
  else if isUnprintable c then ['\\', 'u', '\x7b'] ++ Nat.toDigits 16 c.toNat ++ ['\x7d']
  else [c]

/-- A text between quotes. -/
def quoted (s : String) : String :=
  String.ofList (['"'] ++ s.toList.flatMap quotedChar ++ ['"'])

end ProviderLink.Text
