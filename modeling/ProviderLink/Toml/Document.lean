/-
TOML documents. A document is a list of statements, most of them one to
a line: pairs of a dotted key and a value, and headers. Arrays may span
lines and end with a comma, inline tables may do neither. Nesting is
limited, both of values and of keys.
-/
import ProviderLink.Toml.Table
import ProviderLink.Toml.Token

namespace ProviderLink.Toml

/-- How deep arrays and inline tables may nest, and how long a dotted key may be. -/
def maxNesting : Nat := 79

-- ============================================================== values

/-- A key and the equals sign after it. -/
def keyEquals? (cs : List Char) : Option (List String × String × List Char) := do
  let (path, key, cs) ← keyPath? maxNesting cs
  return (path, key, ← skip? '=' cs)

mutual

/-- A value and what follows it; `room` is how many arrays and inline tables may open. -/
def value? : (fuel : Nat) → (room : Nat) → List Char → Option (Node × List Char)
  | 0, _, _ => none
  | fuel + 1, room, cs =>
    match cs, room with
    | '[' :: _, 0 | '\x7b' :: _, 0 => none
    | '[' :: cs, room + 1 => (items? fuel room cs).map fun (items, rest) => (.array items, rest)
    | '\x7b' :: cs, room + 1 =>
      match dropBlanks cs with
      | '\x7d' :: rest => some (.inline [], rest)
      | cs => (pairs? fuel room [] cs).map fun (es, rest) => (.inline es, rest)
    | cs, _ => (scalar? cs).map fun (v, rest) => (.scalar v, rest)

/-- The items of an array up to its end. -/
def items? : (fuel : Nat) → (room : Nat) → List Char → Option (List Node × List Char)
  | 0, _, _ => none
  | fuel + 1, room, cs => do
    match ← filler? false cs with
    | ']' :: rest => return ([], rest)
    | cs =>
      let (v, cs) ← value? fuel room cs
      match ← filler? false cs with
      | ']' :: rest => return ([v], rest)
      | ',' :: cs =>
        let (vs, rest) ← items? fuel room cs
        return (v :: vs, rest)
      | _ => none

/-- The pairs of an inline table up to its end, put into the entries before them. -/
def pairs? : (fuel : Nat) → (room : Nat) → Entries → List Char → Option (Entries × List Char)
  | 0, _, _, _ => none
  | fuel + 1, room, es, cs => do
    let (path, key, cs) ← keyEquals? cs
    let (v, cs) ← value? fuel room (dropBlanks cs)
    let es ← Entries.insert path key v es
    match dropBlanks cs with
    | '\x7d' :: rest => return (es, rest)
    | ',' :: cs => pairs? fuel room es cs
    | _ => none

end

-- ========================================================== statements

/-- A header and the rest of its line; two brackets at either end make one of an array. -/
def header? : List Char → Option (Statement × List Char)
  | '[' :: cs => do
    let (path, key, cs) ← keyPath? maxNesting cs
    let cs ← skip? ']' (← skip? ']' cs)
    return (.element path key, ← endLine? cs)
  | cs => do
    let (path, key, cs) ← keyPath? maxNesting cs
    return (.table path key, ← endLine? (← skip? ']' cs))

/-- A pair and the rest of its line. A value opens at most one level for each of its characters
and its items are no more than these. -/
def pair? (cs : List Char) : Option (Statement × List Char) := do
  let (path, key, cs) ← keyEquals? cs
  let (v, cs) ← value? (2 * cs.length + 2) maxNesting (dropBlanks cs)
  return (.pair path key v, ← endLine? cs)

/-- The statements of a text; each takes at least one character. -/
def statements? : (fuel : Nat) → List Char → Option (List Statement)
  | 0, _ => none
  | fuel + 1, cs =>
    match dropBlanks cs with
    | [] => some []
    | '\n' :: cs => statements? fuel cs
    | '#' :: cs => do statements? fuel (← endLine? ('#' :: cs))
    | '[' :: cs => do
      let (s, rest) ← header? cs
      return s :: (← statements? fuel rest)
    | cs => do
      let (s, rest) ← pair? cs
      return s :: (← statements? fuel rest)

/-- A newline may follow a carriage return. -/
def plainNewlines : List Char → List Char
  | '\r' :: '\n' :: cs => '\n' :: plainNewlines cs
  | c :: cs => c :: plainNewlines cs
  | [] => []

/-- A text without the byte order mark it may begin with. -/
def dropMark : List Char → List Char
  | '\ufeff' :: cs => cs
  | cs => cs

def Entries.ofText? (s : String) : Option Entries := do
  let cs := plainNewlines (dropMark s.toList)
  Entries.ofStatements? (← statements? (cs.length + 1) cs)

end ProviderLink.Toml
