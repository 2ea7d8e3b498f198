/-
The pieces of a TOML document: what may stand between values, strings,
keys, numbers and words. Each is taken from the beginning of a text and
comes with the text that follows. The text has plain newlines only;
whether a piece may stand where it does, what follows it decides.
-/
import ProviderLink.Text.Character
import ProviderLink.Toml

namespace ProviderLink.Toml

-- ============================================================== filler

/-- The blanks within a line. -/
def isBlank (c : Char) : Bool := c == ' ' || c == '\t'

/-- What a comment or a string may hold: a tab, or a character that is no control character. -/
def isTextChar (c : Char) : Bool := c == '\t' || (' ' ≤ c && c.toNat ≠ 127)

/-- Drops blanks at the beginning. -/
def dropBlanks (cs : List Char) : List Char := cs.dropWhile isBlank

/-- What follows blanks, a comment if there is one, and the end of the line. -/
def endLine? (cs : List Char) : Option (List Char) :=
  let rest := match dropBlanks cs with
    | '#' :: cs => cs.dropWhile isTextChar
    | cs => cs
  match rest with
  | [] => some []
  | '\n' :: cs => some cs
  | _ => none

/-- What follows blanks, comments and newlines; a comment must end with its line. -/
def filler? (inComment : Bool) : List Char → Option (List Char)
  | [] => if inComment then none else some []
  | c :: cs =>
    if c = '\n' then filler? false cs
    else if inComment then if isTextChar c then filler? true cs else none
    else if isBlank c then filler? false cs
    else if c = '#' then filler? true cs
    else some (c :: cs)

-- ============================================================= strings

/-- A way to write strings. -/
structure StringStyle where
  quote : Char
  /-- A backslash begins an escape. -/
  escapes : Bool
  /-- Three quotes stand at either end, and the string may span lines. -/
  multiline : Bool
  deriving DecidableEq, Repr

/-- Where a string is between two characters. -/
inductive StringMode
  | plain
  /-- So many quotes of a string that ends with three. -/
  | quotes (n : Nat)
  /-- After a backslash. -/
  | escaped
  /-- So many hexadecimal digits are to come. -/
  | hex (left value : Nat)
  /-- After a backslash that takes out the end of its line and the blanks that follow. -/
  | folding (lineEnded : Bool)
  deriving DecidableEq, Repr

/-- What a character does to a string. -/
inductive StringStep
  /-- More of the content, and where the string is then. -/
  | more (content : List Char) (mode : StringMode)
  /-- The string ended with this character. -/
  | ended
  /-- The string ended before this character, and this belongs to its content. -/
  | endedBefore (content : List Char)

/-- The character of a code point that is one. -/
def charOf? (n : Nat) : Option Char := if n.isValidChar then some (Char.ofNat n) else none

namespace StringStyle

/-- A character of the content. -/
def plainStep (st : StringStyle) (before : List Char) (c : Char) : Option StringStep :=
  if c = st.quote then
    if st.multiline then some (.more before (.quotes 1)) else some .ended
  else if c = '\\' ∧ st.escapes then some (.more before .escaped)
  else if c = '\n' then if st.multiline then some (.more (before ++ ['\n']) .plain) else none
  else if isTextChar c then some (.more (before ++ [c]) .plain)
  else none

/-- The character after a backslash. -/
def escapedStep (st : StringStyle) (c : Char) : Option StringStep :=
  let one (n : Nat) : Option StringStep := some (.more [Char.ofNat n] .plain)
  match c with
  | '"' | '\\' => one c.toNat
  | 'b' => one 8
  | 't' => one 9
  | 'n' => one 10
  | 'f' => one 12
  | 'r' => one 13
  | 'u' => some (.more [] (.hex 4 0))
  | 'U' => some (.more [] (.hex 8 0))
  | c =>
    if st.multiline ∧ (isBlank c ∨ c = '\n') then some (.more [] (.folding (c == '\n'))) else none

/-- A digit of an escaped code point. -/
def hexStep (left value : Nat) (c : Char) : Option StringStep := do
  let value := 16 * value + (← Text.hexDigit? c)
  if left = 1 then do return .more [← charOf? value] .plain
  else return .more [] (.hex (left - 1) value)

/-- One character. Up to two quotes are content where three end the string, also right before
those three. -/
def step (st : StringStyle) (mode : StringMode) (c : Char) : Option StringStep :=
  match mode with
  | .plain => st.plainStep [] c
  | .quotes n =>
    if c = st.quote then
      if n = 5 then some (.endedBefore (List.replicate 2 st.quote))
      else some (.more [] (.quotes (n + 1)))
    else if 3 ≤ n then some (.endedBefore (List.replicate (n - 3) st.quote))
    else st.plainStep (List.replicate n st.quote) c
  | .escaped => st.escapedStep c
  | .hex left value => hexStep left value c
  | .folding lineEnded =>
    if isBlank c then some (.more [] (.folding lineEnded))
    else if c = '\n' then some (.more [] (.folding true))
    else if lineEnded then st.plainStep [] c
    else none

/-- The rest of a string and what follows it. -/
def content? (st : StringStyle) (mode : StringMode) :
    List Char → Option (List Char × List Char)
  | [] => match mode with
    | .quotes n => if 3 ≤ n then some (List.replicate (n - 3) st.quote, []) else none
    | _ => none
  | c :: cs =>
    match st.step mode c with
    | none => none
    | some .ended => some ([], cs)
    | some (.endedBefore content) => some (content, c :: cs)
    | some (.more content mode) =>
      (st.content? mode cs).map fun (more, rest) => (content ++ more, rest)

end StringStyle

/-- Strings with escapes. -/
def basic : StringStyle := ⟨'"', true, false⟩

/-- Strings without escapes. -/
def literal : StringStyle := ⟨'\'', false, false⟩

/-- A newline right after the opening quotes does not belong to the string. -/
def dropNewline : List Char → List Char
  | '\n' :: cs => cs
  | cs => cs

/-- A string and what follows it. -/
def StringStyle.string? (st : StringStyle) (cs : List Char) : Option (String × List Char) :=
  (st.content? .plain cs).map fun (content, rest) => (String.ofList content, rest)

/-- A string that spans lines and what follows it. -/
def StringStyle.lines? (st : StringStyle) (cs : List Char) : Option (String × List Char) :=
  { st with multiline := true }.string? (dropNewline cs)

/-- A string of any style. -/
def string? : List Char → Option (String × List Char)
  | '"' :: '"' :: '"' :: cs => basic.lines? cs
  | '\'' :: '\'' :: '\'' :: cs => literal.lines? cs
  | '"' :: cs => basic.string? cs
  | '\'' :: cs => literal.string? cs
  | _ => none

-- ================================================================ keys

/-- What a key may hold without quotes. -/
def isBareKeyChar (c : Char) : Bool := c.isAlphanum || c == '-' || c == '_'

def key? : List Char → Option (String × List Char)
  | '"' :: cs => basic.string? cs
  | '\'' :: cs => literal.string? cs
  | cs =>
    let key := cs.takeWhile isBareKeyChar
    if key = [] then none else some (String.ofList key, cs.drop key.length)

/-- Keys between points, at most so many: those on the way and the last. -/
def keyPath? : (most : Nat) → List Char → Option (List String × String × List Char)
  | 0, _ => none
  | most + 1, cs => do
    let (key, cs) ← key? (dropBlanks cs)
    match dropBlanks cs with
    | '.' :: cs => do
      let (path, last, cs) ← keyPath? most cs
      return (key :: path, last, cs)
    | cs => return ([], key, cs)

-- ============================================================= numbers

/-- More digits, with single underscores between them, without the underscores. -/
def moreDigits (base : Nat) : List Char → List Char × List Char
  | [] => ([], [])
  | '_' :: c :: cs =>
    if (Text.digit? base c).isSome then
      let (digits, rest) := moreDigits base cs
      (c :: digits, rest)
    else ([], '_' :: c :: cs)
  | c :: cs =>
    if (Text.digit? base c).isSome then
      let (digits, rest) := moreDigits base cs
      (c :: digits, rest)
    else ([], c :: cs)

/-- Digits, at least one. -/
def digits? (base : Nat) : List Char → Option (List Char × List Char)
  | c :: cs =>
    if (Text.digit? base c).isSome then
      let (digits, rest) := moreDigits base cs
      some (c :: digits, rest)
    else none
  | [] => none

/-- A sign, if there is one: whether it is a minus. -/
def sign : List Char → Bool × List Char
  | '+' :: cs => (false, cs)
  | '-' :: cs => (true, cs)
  | cs => (false, cs)

/-- The whole part of a number; nothing follows a zero. -/
def whole? : List Char → Option (List Char × List Char)
  | '0' :: cs => some (['0'], cs)
  | cs => digits? 10 cs

/-- The exponent of a float, if there is one. -/
def exponent? : List Char → Option (Option Int × List Char)
  | [] => some (none, [])
  | c :: cs =>
    if c = 'e' ∨ c = 'E' then do
      let (negative, cs) := sign cs
      let (digits, cs) ← digits? 10 cs
      let n : Int := Text.valueOf 10 digits
      return (some (if negative then -n else n), cs)
    else some (none, c :: cs)

/-- The fraction of a float, if there is one. -/
def fractionDigits? : List Char → Option (Option (List Char) × List Char)
  | '.' :: cs => (digits? 10 cs).map fun (digits, cs) => (some digits, cs)
  | cs => some (none, cs)

/-- A float past the largest double is an infinity, and only the negative one may be written so. -/
def floatOf? (negative : Bool) (digits : List Char) (exponent : Int) : Option Toml :=
  match Binary64.ofDecimal negative (Text.valueOf 10 digits) exponent with
  | some x => some (.float (some x))
  | none => if negative then some (.float none) else none

/-- An integer of 64 bits. -/
def integerOf? (i : Int) : Option Toml :=
  if -0x8000000000000000 ≤ i ∧ i < 0x8000000000000000 then some (.integer (Int64.ofInt i)) else none

/-- A number in base ten: a float if it has a fraction or an exponent. -/
def decimal? (cs : List Char) : Option (Toml × List Char) := do
  let (negative, cs) := sign cs
  let (whole, cs) ← whole? cs
  let (fraction, cs) ← fractionDigits? cs
  let (exponent, cs) ← exponent? cs
  if fraction.isNone ∧ exponent.isNone then
    let n : Int := Text.valueOf 10 whole
    return (← integerOf? (if negative then -n else n), cs)
  else
    let digits := whole ++ fraction.getD []
    let shift : Int := (fraction.getD []).length
    return (← floatOf? negative digits (exponent.getD 0 - shift), cs)

/-- An integer of another base. -/
def based? (base : Nat) (cs : List Char) : Option (Toml × List Char) := do
  let (digits, cs) ← digits? base cs
  return (← integerOf? (Text.valueOf base digits), cs)

/-- A float that is written as a word. -/
def special? (cs : List Char) : Option (Toml × List Char) :=
  match (sign cs).2 with
  | 'i' :: 'n' :: 'f' :: cs | 'n' :: 'a' :: 'n' :: cs => some (.float none, cs)
  | _ => none

def number? : List Char → Option (Toml × List Char)
  | '0' :: 'x' :: cs => based? 16 cs
  | '0' :: 'o' :: cs => based? 8 cs
  | '0' :: 'b' :: cs => based? 2 cs
  | cs => (decimal? cs).or (special? cs)

/-- A scalar: a string, a truth value, a date-time or a number. -/
def scalar? (cs : List Char) : Option (Toml × List Char) :=
  match cs with
  | '"' :: _ | '\'' :: _ => (string? cs).map fun (s, rest) => (.string s, rest)
  | 't' :: 'r' :: 'u' :: 'e' :: rest => some (.boolean true, rest)
  | 'f' :: 'a' :: 'l' :: 's' :: 'e' :: rest => some (.boolean false, rest)
  | cs =>
    ((DateTime.scan? cs).map fun (d, rest) => (Toml.datetime d, rest)).or (number? cs)

end ProviderLink.Toml
