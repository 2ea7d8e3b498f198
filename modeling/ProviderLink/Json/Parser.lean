/-
From tokens to a value. The parser is a machine over the tokens: the
arrays and objects still open form a stack, and one token is taken at a
time, so it recurs on the tokens and the bound on nesting is the length
of the stack. Text nests fewer than `maxDepth` levels or is refused,
unless its form alone matters.
What is open when the tokens end, or comes after the value is complete,
refuses the text as well.

The machine delivers a value as it is written, members in the order of
the text and repeated names included (`written?`); what the rest of the
library takes is its canonical form (`ofText?`).
-/
import ProviderLink.Bytes
import ProviderLink.Json.Lexer

namespace ProviderLink.Json

/-- The first number of levels that is too many. -/
def maxDepth : Nat := 128

/-- An array or object still open; what it holds so far is latest first. -/
inductive Frame
  | array (items : List Json)
  /-- The last name stands for the value to come, or for the last one in place. -/
  | object (members : List (String × Json)) (name : String)

/-- What the next token may be. -/
inductive Awaiting
  | value
  /-- A value or the end of the array just opened. -/
  | itemOrEnd
  | name
  /-- A name or the end of the object just opened. -/
  | nameOrEnd
  | separator
  /-- A comma or the end of what is open. -/
  | commaOrEnd
  deriving DecidableEq, Repr

/-- The parser between two tokens. -/
inductive ParseState
  | within (stack : List Frame) (awaiting : Awaiting)
  | complete (v : Json)

/-- A value in place: it is the whole, an item or a member. -/
def supply (v : Json) : List Frame → ParseState
  | [] => .complete v
  | .array items :: stack => .within (.array (v :: items) :: stack) .commaOrEnd
  | .object members name :: stack =>
    .within (.object ((name, v) :: members) name :: stack) .commaOrEnd

/-- The value that a scalar token stands for. -/
def scalar? : Token → Option Json
  | .null => some null
  | .bool b => some (bool b)
  | .number n => some (number n)
  | .string s => some (string s)
  | _ => none

/-- Whether one more level may open: there is no bound on levels, or this one is below it. -/
def hasRoom (bound : Option Nat) (stack : List Frame) : Bool :=
  bound.all fun bound => stack.length + 1 < bound

def beginValue (bound : Option Nat) (stack : List Frame) (t : Token) : Option ParseState :=
  match t with
  | .beginArray =>
    if hasRoom bound stack then some (.within (.array [] :: stack) .itemOrEnd) else none
  | .beginObject =>
    if hasRoom bound stack then some (.within (.object [] "" :: stack) .nameOrEnd) else none
  | t => (scalar? t).map fun v => supply v stack

/-- The end of the innermost open array or object. -/
def close? (stack : List Frame) (t : Token) : Option ParseState :=
  match stack, t with
  | .array items :: stack, .endArray => some (supply (array items.reverse) stack)
  | .object members _ :: stack, .endObject =>
    some (supply (object members.reverse) stack)
  | _, _ => none

/-- A token where a name may stand. -/
def beginName (stack : List Frame) (t : Token) : Option ParseState :=
  match stack, t with
  | .object members _ :: stack, .string name =>
    some (.within (.object members name :: stack) .separator)
  | _, _ => none

def step (bound : Option Nat) (stack : List Frame) (awaiting : Awaiting) (t : Token) :
    Option ParseState :=
  match awaiting with
  | .value => beginValue bound stack t
  | .itemOrEnd => if t = .endArray then close? stack t else beginValue bound stack t
  | .name => beginName stack t
  | .nameOrEnd => if t = .endObject then close? stack t else beginName stack t
  | .separator => if t = .nameSeparator then some (.within stack .value) else none
  | .commaOrEnd =>
    if t = .valueSeparator then
      match stack with
      | .array _ :: _ => some (.within stack .value)
      | .object _ _ :: _ => some (.within stack .name)
      | [] => none
    else close? stack t

/-- The value of the tokens that follow. -/
def parseFrom (bound : Option Nat) : ParseState → List Token → Option Json
  | .complete v, [] => some v
  | .complete _, _ :: _ => none
  | .within _ _, [] => none
  | .within stack awaiting, t :: ts =>
    match step bound stack awaiting t with
    | some state => parseFrom bound state ts
    | none => none

/-- The value of a list of tokens, as written, if it nests fewer levels than a bound. -/
def ofTokens? (bound : Option Nat) (ts : List Token) : Option Json :=
  parseFrom bound (.within [] .value) ts

/-- The value of a text, as written. -/
def written? (cs : List Char) : Option Json := (lex cs).bind (ofTokens? (some maxDepth))

/-- The value of a text. -/
def ofText? (s : String) : Option Json := (written? s.toList).map canonical

/-- The value of a text in UTF-8. -/
def ofBytes? (bytes : Bytes) : Option Json := (Bytes.text? bytes).bind ofText?

/-- A placeholder for the reader's own words about a text that it does not take. They stand in
messages only, and nothing depends on them. -/
def complaint : String := "<json error>"

end ProviderLink.Json
