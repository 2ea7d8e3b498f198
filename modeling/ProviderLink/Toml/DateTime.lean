/-
Dates and times as TOML knows them: a date, a time of day, or both with
or without an offset from UTC. Each is written in one way, with `T`
between date and time, the fraction of a second without zeros at its
end, and an offset of zero minutes as `+00:00` unless it was `Z`.
-/
import ProviderLink.Number

namespace ProviderLink.Toml

/-- A day of the calendar. -/
structure Date where
  year : Nat
  month : Nat
  day : Nat
  deriving DecidableEq, Repr

/-- A time of day. -/
structure Time where
  hour : Nat
  minute : Nat
  second : Nat
  nanosecond : Nat
  deriving DecidableEq, Repr

/-- An offset from UTC. -/
inductive Offset
  | utc
  | minutes (n : Int)
  deriving DecidableEq, Repr

/-- A date, a time or both. -/
inductive DateTime
  | date (d : Date)
  | time (t : Time)
  | dateTime (d : Date) (t : Time) (offset : Option Offset)
  deriving DecidableEq, Repr

-- ============================================================= writing

/-- A number of at least `width` digits. -/
def padded (width n : Nat) : List Char :=
  let digits := Nat.toDigits 10 n
  List.replicate (width - digits.length) '0' ++ digits

/-- The text of a date. -/
def Date.chars (d : Date) : List Char :=
  padded 4 d.year ++ '-' :: padded 2 d.month ++ '-' :: padded 2 d.day

/-- The fraction of a second, if there is one. -/
def fractionChars (nanosecond : Nat) : List Char :=
  if nanosecond = 0 then []
  else '.' :: ((padded 9 nanosecond).reverse.dropWhile (· == '0')).reverse

/-- The text of a time. -/
def Time.chars (t : Time) : List Char :=
  padded 2 t.hour ++ ':' :: padded 2 t.minute ++ ':' :: padded 2 t.second ++
    fractionChars t.nanosecond

/-- The text of an offset. -/
def Offset.chars : Offset → List Char
  | utc => ['Z']
  | minutes n =>
    (if n < 0 then '-' else '+') :: padded 2 (n.natAbs / 60) ++ ':' :: padded 2 (n.natAbs % 60)

/-- The text of an offset that may be left out. -/
def offsetChars : Option Offset → List Char
  | some offset => offset.chars
  | none => []

/-- The text of a date, a time or both. -/
def DateTime.chars : DateTime → List Char
  | date d => d.chars
  | time t => t.chars
  | dateTime d t offset => d.chars ++ 'T' :: t.chars ++ offsetChars offset

/-- The text of a date, a time or both. -/
def DateTime.text (d : DateTime) : String := String.ofList d.chars

-- ============================================================= reading

/-- A number of so many digits. -/
def fixed? (width : Nat) (cs : List Char) : Option (Nat × List Char) :=
  let digits := cs.take width
  if digits.length = width ∧ digits.all Char.isDigit then
    some (Number.Numeral.digitsValue digits, cs.drop width)
  else none

/-- What follows a character. -/
def skip? (c : Char) : List Char → Option (List Char)
  | d :: cs => if d = c then some cs else none
  | [] => none

/-- How many days a month has. -/
def daysIn (year month : Nat) : Nat :=
  if month = 2 then
    if year % 4 = 0 ∧ (year % 100 ≠ 0 ∨ year % 400 = 0) then 29 else 28
  else if month = 4 ∨ month = 6 ∨ month = 9 ∨ month = 11 then 30
  else 31

/-- A date at the beginning of a text. -/
def Date.scan? (cs : List Char) : Option (Date × List Char) := do
  let (year, cs) ← fixed? 4 cs
  let (month, cs) ← fixed? 2 (← skip? '-' cs)
  let (day, cs) ← fixed? 2 (← skip? '-' cs)
  if 1 ≤ month ∧ month ≤ 12 ∧ 1 ≤ day ∧ day ≤ daysIn year month then
    some (⟨year, month, day⟩, cs)
  else none

/-- A fraction of a second in nanoseconds, cut off after nine digits; zero if there is none. -/
def fraction? : List Char → Option (Nat × List Char)
  | '.' :: cs =>
    let digits := cs.takeWhile Char.isDigit
    let kept := digits.take 9
    if digits = [] then none
    else some (Number.Numeral.digitsValue (kept ++ List.replicate (9 - kept.length) '0'),
      cs.drop digits.length)
  | cs => some (0, cs)

/-- A time at the beginning of a text. -/
def Time.scan? (cs : List Char) : Option (Time × List Char) := do
  let (hour, cs) ← fixed? 2 cs
  let (minute, cs) ← fixed? 2 (← skip? ':' cs)
  let (second, cs) ← fixed? 2 (← skip? ':' cs)
  let (nanosecond, cs) ← fraction? cs
  if hour ≤ 23 ∧ minute ≤ 59 ∧ second ≤ 60 then
    some (⟨hour, minute, second, nanosecond⟩, cs)
  else none

/-- The hours and minutes of an offset. -/
def Offset.minutes? (sign : Int) (cs : List Char) : Option (Offset × List Char) := do
  let (h, cs) ← fixed? 2 cs
  let (m, cs) ← fixed? 2 (← skip? ':' cs)
  if h ≤ 23 ∧ m ≤ 59 then some (.minutes (sign * ((h * 60 + m : Nat) : Int)), cs) else none

/-- An offset at the beginning of a text, if there is one. -/
def Offset.scan? : List Char → Option (Option Offset × List Char)
  | 'Z' :: cs | 'z' :: cs => some (some .utc, cs)
  | '+' :: cs => (Offset.minutes? 1 cs).map fun (o, cs) => (some o, cs)
  | '-' :: cs => (Offset.minutes? (-1) cs).map fun (o, cs) => (some o, cs)
  | cs => some (none, cs)

/-- What stands between a date and a time. -/
def isDelimiter (c : Char) : Bool := c == 'T' || c == 't' || c == ' '

/-- A time with its offset after a date. -/
def DateTime.afterDate? (d : Date) (cs : List Char) : Option (DateTime × List Char) := do
  let (t, cs) ← Time.scan? cs
  let (offset, cs) ← Offset.scan? cs
  return (.dateTime d t offset, cs)

/-- A date, a time or both at the beginning of a text. A blank after a date that no time follows
does not belong to it. -/
def DateTime.scan? (cs : List Char) : Option (DateTime × List Char) :=
  match Date.scan? cs with
  | none => (Time.scan? cs).map fun (t, cs) => (.time t, cs)
  | some (d, []) => some (.date d, [])
  | some (d, c :: cs) =>
    if isDelimiter c then (DateTime.afterDate? d cs).or (some (.date d, c :: cs))
    else some (.date d, c :: cs)

/-- The date, the time or both of a text. -/
def DateTime.ofText? (s : String) : Option DateTime :=
  match DateTime.scan? s.toList with
  | some (d, []) => some d
  | _ => none

end ProviderLink.Toml
