/-
From characters to tokens. The lexer is a machine with one move per
character or escape, so it recurs on the text itself. Numbers and the
three words are gathered as a run of word characters and read once the
run ends; a run that is neither refuses the text, as does a control
character or a lone surrogate in a string.

What is refused for its value alone, a number past the largest double or
a string with half a surrogate pair, is still a lexeme: a reader to whom
that part of a text does not matter goes past it.
-/
import ProviderLink.Json.Token
import ProviderLink.Text.Character

namespace ProviderLink.Json

/-- A token, or what has the form of one and no value. -/
inductive Lexeme
  | token (t : Token)
  | number
  | string
  deriving DecidableEq

namespace Lexeme

def token? : Lexeme → Option Token
  | token t => some t
  | number | string => none

def form : Lexeme → Token
  | token t => t
  | number => .null
  | string => .string ""

end Lexeme

/-- What a string is gathered from: characters, and halves of pairs that make one. -/
inductive StringPart
  | char (c : Char)
  | half (unit : Nat)
  deriving DecidableEq, Repr

/-- Where the lexer stands between two characters; what is gathered is latest first. -/
inductive LexMode
  | between
  | word (gathered : List Char)
  | string (gathered : List StringPart)
  deriving DecidableEq, Repr

namespace LexMode

/-- The blanks of JSON. -/
def isSpace (c : Char) : Bool := c == ' ' || c == '\t' || c == '\n' || c == '\r'

/-- What numbers and words are made of. -/
def isWordChar (c : Char) : Bool := c.isAlphanum || c == '-' || c == '+' || c == '.'

/-- The token of a run of word characters. -/
def wordToken? (cs : List Char) : Option Token :=
  if cs = ['n', 'u', 'l', 'l'] then some .null
  else if cs = ['t', 'r', 'u', 'e'] then some (.bool true)
  else if cs = ['f', 'a', 'l', 's', 'e'] then some (.bool false)
  else (Number.ofChars? cs).map .number

/-- The lexeme of a run of word characters. -/
def wordLexeme? (cs : List Char) : Option Lexeme :=
  ((wordToken? cs).map .token).or ((Number.Numeral.ofChars? cs).map fun _ => .number)

/-- The value of four hexadecimal digits. -/
def hex4? (a b c d : Char) : Option Nat := do
  return ((← Text.hexDigit? a) * 16 + (← Text.hexDigit? b)) * 256 +
    ((← Text.hexDigit? c) * 16 + (← Text.hexDigit? d))

/-- Whether a 16-bit unit is the first of a surrogate pair. -/
def isHigh (n : Nat) : Bool := 0xd800 ≤ n && n ≤ 0xdbff

/-- Whether a 16-bit unit is the second of a surrogate pair. -/
def isLow (n : Nat) : Bool := 0xdc00 ≤ n && n ≤ 0xdfff

/-- The character of a surrogate pair. -/
def pair (high low : Nat) : Char := Char.ofNat (0x10000 + (high - 0xd800) * 1024 + (low - 0xdc00))

/-- The part of a string that a 16-bit unit is. -/
def unitPart (n : Nat) : StringPart :=
  if isHigh n || isLow n then .half n else .char (Char.ofNat n)

/-- The characters of some parts, latest first, before some others; each half needs its other. -/
def charsOf? : List StringPart → List Char → Option (List Char)
  | [], cs => some cs
  | .char c :: parts, cs => charsOf? parts (c :: cs)
  | .half low :: .half high :: parts, cs =>
    if isHigh high && isLow low then charsOf? parts (pair high low :: cs) else none
  | [.half _], _ | .half _ :: .char _ :: _, _ => none

def stringLexeme (gathered : List StringPart) : Lexeme :=
  match charsOf? gathered [] with
  | some cs => .token (.string (String.ofList cs))
  | none => .string

/-- The character after a backslash that stands alone for another. -/
def shortEscape? (c : Char) : Option Char :=
  if c = '"' ∨ c = '\\' ∨ c = '/' then some c
  else if c = 'b' then some (Char.ofNat 8)
  else if c = 'f' then some (Char.ofNat 12)
  else if c = 'n' then some '\n'
  else if c = 'r' then some '\r'
  else if c = 't' then some '\t'
  else none

/-- The tokens that a character between tokens completes, and the mode it leads to. -/
def start? (c : Char) : Option (List Token × LexMode) :=
  if isSpace c then some ([], between)
  else if c = '"' then some ([], string [])
  else if c = '[' then some ([.beginArray], between)
  else if c = ']' then some ([.endArray], between)
  else if c = '\x7b' then some ([.beginObject], between)
  else if c = '\x7d' then some ([.endObject], between)
  else if c = ':' then some ([.nameSeparator], between)
  else if c = ',' then some ([.valueSeparator], between)
  else if isWordChar c then some ([], word [c])
  else none

end LexMode

open LexMode

/-- The lexemes of a text, from a mode of the lexer. -/
def lexFrom : LexMode → List Char → Option (List Lexeme)
  | .between, [] => some []
  | .word gathered, [] => (wordLexeme? gathered.reverse).map fun l => [l]
  | .string _, [] => none
  | .between, c :: cs => do
    let (ts, mode) ← start? c
    return ts.map .token ++ (← lexFrom mode cs)
  | .word gathered, c :: cs =>
    if isWordChar c then lexFrom (.word (c :: gathered)) cs
    else do
      let l ← wordLexeme? gathered.reverse
      let (ts, mode) ← start? c
      return l :: ts.map .token ++ (← lexFrom mode cs)
  | .string gathered, '"' :: cs => do
    return stringLexeme gathered :: (← lexFrom .between cs)
  | .string gathered, '\\' :: 'u' :: a :: b :: c :: d :: cs => do
    let unit ← hex4? a b c d
    lexFrom (.string (unitPart unit :: gathered)) cs
  | .string gathered, '\\' :: c :: cs => do
    let c ← shortEscape? c
    lexFrom (.string (.char c :: gathered)) cs
  | .string gathered, c :: cs =>
    if c.toNat < 0x20 ∨ c = '\\' then none else lexFrom (.string (.char c :: gathered)) cs

/-- The lexemes of a text. -/
def lexemes (cs : List Char) : Option (List Lexeme) := lexFrom .between cs

/-- The tokens of a text. -/
def lex (cs : List Char) : Option (List Token) := do (← lexemes cs).mapM Lexeme.token?

end ProviderLink.Json
