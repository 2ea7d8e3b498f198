/-
The tokens of a JSON text and how each is written. A value's text is the
texts of its tokens put together (`Json.tokens`, `Token.chars`): no
blanks, members in the order the value lists them.
-/
import ProviderLink.Json

namespace ProviderLink

/-- A token of a JSON text. -/
inductive Token
  | beginArray
  | endArray
  | beginObject
  | endObject
  | nameSeparator
  | valueSeparator
  | null
  | bool (b : Bool)
  | number (n : Number)
  | string (s : String)
  deriving DecidableEq

namespace Token

/-- A character inside a JSON string: the short escapes where there is one, and the number of
any other control character. -/
def stringChar (c : Char) : List Char :=
  if c = '"' then ['\\', '"']
  else if c = '\\' then ['\\', '\\']
  else if c = '\n' then ['\\', 'n']
  else if c = '\r' then ['\\', 'r']
  else if c = '\t' then ['\\', 't']
  else if c.toNat = 8 then ['\\', 'b']
  else if c.toNat = 12 then ['\\', 'f']
  else if c.toNat < 0x20 then
    ['\\', 'u', '0', '0', Nat.digitChar (c.toNat / 16), Nat.digitChar (c.toNat % 16)]
  else [c]

/-- A string between quotes. -/
def stringChars (s : String) : List Char := '"' :: (s.toList.flatMap stringChar ++ ['"'])

/-- The text of a token. -/
def chars : Token → List Char
  | beginArray => ['[']
  | endArray => [']']
  | beginObject => ['\x7b']
  | endObject => ['\x7d']
  | nameSeparator => [':']
  | valueSeparator => [',']
  | null => ['n', 'u', 'l', 'l']
  | bool true => ['t', 'r', 'u', 'e']
  | bool false => ['f', 'a', 'l', 's', 'e']
  | number n => n.chars
  | string s => stringChars s

end Token

namespace Json

mutual

/-- The tokens of a value. -/
def tokens : Json → List Token
  | null => [.null]
  | bool b => [.bool b]
  | number n => [.number n]
  | string s => [.string s]
  | array items => .beginArray :: (itemTokens items ++ [.endArray])
  | object members => .beginObject :: (memberTokens members ++ [.endObject])

/-- The tokens of the items of an array, a comma between two. -/
def itemTokens : List Json → List Token
  | [] => []
  | v :: rest => tokens v ++ moreItemTokens rest

/-- The tokens of further items, a comma before each. -/
def moreItemTokens : List Json → List Token
  | [] => []
  | v :: rest => .valueSeparator :: (tokens v ++ moreItemTokens rest)

/-- The tokens of the members of an object, a comma between two. -/
def memberTokens : List (String × Json) → List Token
  | [] => []
  | (k, v) :: rest => .string k :: .nameSeparator :: (tokens v ++ moreMemberTokens rest)

/-- The tokens of further members, a comma before each. -/
def moreMemberTokens : List (String × Json) → List Token
  | [] => []
  | (k, v) :: rest =>
    .valueSeparator :: .string k :: .nameSeparator :: (tokens v ++ moreMemberTokens rest)

end

/-- The text of a value, without blanks. -/
def chars (v : Json) : List Char := v.tokens.flatMap Token.chars

/-- The text of a value, without blanks. -/
def text (v : Json) : String := String.ofList v.chars

end Json

end ProviderLink
