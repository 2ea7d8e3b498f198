/-
Addresses of hosts. An IPv4 address has up to four numbers, each in base
ten, sixteen or eight as its beginning says; the last number fills all
the bytes that the others leave. An IPv6 address has eight pieces of
sixteen bits; `::` stands for one or more that are zero, and the last two
may be written as an IPv4 address of four plain numbers.
-/
import ProviderLink.Text.Character
import ProviderLink.Text.Split

namespace ProviderLink.Url

open Text

/-- A number in a base; no digits are zero. -/
def numberIn? (base : Nat) (digits : List Char) : Option Nat :=
  if digits.all fun c => (digit? base c).isSome then some (valueOf base digits) else none

def ipv4Number? : List Char → Option Nat
  | [] => none
  | '0' :: 'x' :: digits | '0' :: 'X' :: digits => numberIn? 16 digits
  | '0' :: d :: digits => numberIn? 8 (d :: digits)
  | digits => numberIn? 10 digits

/-- The labels of a name without the empty one after a point at its end. -/
def labels (name : List Char) : List (List Char) :=
  let ls := pieces '.' name
  if ls.getLast? = some [] then ls.dropLast else ls

/-- Whether a name ends in a number, so that it must be an IPv4 address. -/
def endsInNumber (name : List Char) : Bool :=
  match (labels name).getLast? with
  | some l => (l ≠ [] && l.all Char.isDigit) || (ipv4Number? l).isSome
  | none => false

/-- The value of the numbers of an IPv4 address. -/
def ipv4Value? : List Nat → (place : Nat) → Option Nat
  | [], _ => none
  | [last], place => if last < Nat.pow 256 place then some last else none
  | n :: rest, place =>
    if n < 256 then
      (ipv4Value? rest (place - 1)).map fun value => n * Nat.pow 256 (place - 1) + value
    else none

def ipv4? (name : List Char) : Option Nat := do
  let ls := labels name
  if 4 < ls.length then none
  ipv4Value? (← ls.mapM ipv4Number?) 4

/-- A number of an IPv4 address within an IPv6 address. -/
def plainByte? (cs : List Char) : Option Nat := do
  if cs = [] ∨ (cs.length ≠ 1 ∧ cs.head? = some '0') then none
  let n ← numberIn? 10 cs
  if n < 256 then some n else none

/-- A piece of an IPv6 address. -/
def piece? (cs : List Char) : Option Nat :=
  if cs = [] ∨ 4 < cs.length then none else numberIn? 16 cs

/-- The two pieces that an IPv4 address makes. -/
def dottedPieces? (cs : List Char) : Option (List Nat) := do
  match ← (pieces '.' cs).mapM plainByte? with
  | [a, b, c, d] => return [a * 256 + b, c * 256 + d]
  | _ => none

/-- Pieces between colons; at the end of an address an IPv4 address may stand. -/
def pieceList? (atEnd : Bool) : List (List Char) → Option (List Nat)
  | [] => some []
  | [last] =>
    if atEnd && last.contains '.' then dottedPieces? last else (piece? last).map fun n => [n]
  | p :: rest => do
    let n ← piece? p
    return n :: (← pieceList? atEnd rest)

/-- The pieces of a part of an address, which may be empty. -/
def partPieces? (atEnd : Bool) (cs : List Char) : Option (List Nat) :=
  if cs = [] then some [] else pieceList? atEnd (pieces ':' cs)

/-- What stands before the first double colon and after it. -/
def cutDouble? : List Char → Option (List Char × List Char)
  | ':' :: ':' :: cs => some ([], cs)
  | c :: cs => (cutDouble? cs).map fun (before, after) => (c :: before, after)
  | [] => none

/-- An IPv6 address as its eight pieces. -/
def ipv6? (cs : List Char) : Option (List Nat) := do
  match cutDouble? cs with
  | some (before, after) =>
    let left ← partPieces? false before
    let right ← partPieces? true after
    let given := left.length + right.length
    if given < 8 then some (left ++ List.replicate (8 - given) 0 ++ right) else none
  | none =>
    let all ← partPieces? true cs
    if all.length = 8 then some all else none

end ProviderLink.Url
