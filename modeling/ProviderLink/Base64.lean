/-
Base64 in its standard alphabet. Bytes go out three at a time as four
symbols, with `=` filling the last group. Reading is strict: padding is
required, and a last symbol must not carry bits that no byte takes up,
so no two texts stand for the same bytes. A refusal says what is wrong
and at which byte of the text.
-/
import ProviderLink.Bytes

namespace ProviderLink

namespace Base64

/-- Why a text is not base64. -/
inductive Fault
  /-- A byte outside the alphabet, or padding in a wrong place, and its offset. -/
  | invalidSymbol (byte : UInt8) (offset : Nat)
  /-- The last symbol, at this offset, has bits left over. -/
  | invalidLastSymbol (byte : UInt8) (offset : Nat)
  /-- The symbols end after the first of a group. -/
  | invalidLength (symbols : Nat)
  /-- The last group is not filled up to four. -/
  | invalidPadding
  deriving DecidableEq, Repr

/-- The message of a refusal. -/
def Fault.message : Fault → String
  | .invalidSymbol b i => s!"Invalid symbol {b.toNat}, offset {i}."
  | .invalidLastSymbol b i => s!"Invalid last symbol {b.toNat}, offset {i}."
  | .invalidLength n => s!"Invalid input length: {n}"
  | .invalidPadding => "Invalid padding"

-- =========================================================== alphabet

/-- The byte that fills the last group. -/
def pad : UInt8 := 61

/-- The symbol of a six-bit value. -/
def symbol (v : Nat) : UInt8 :=
  if v < 26 then (65 + v).toUInt8
  else if v < 52 then (97 + (v - 26)).toUInt8
  else if v < 62 then (48 + (v - 52)).toUInt8
  else if v = 62 then 43
  else 47

/-- The six-bit value of a symbol. -/
def value? (b : UInt8) : Option Nat :=
  if 65 ≤ b ∧ b ≤ 90 then some (b.toNat - 65)
  else if 97 ≤ b ∧ b ≤ 122 then some (b.toNat - 97 + 26)
  else if 48 ≤ b ∧ b ≤ 57 then some (b.toNat - 48 + 52)
  else if b = 43 then some 62
  else if b = 47 then some 63
  else none

/-- The value of the symbol at an offset. -/
def valueAt (offset : Nat) (b : UInt8) : Except Fault Nat :=
  match value? b with
  | some v => .ok v
  | none => .error (.invalidSymbol b offset)

theorem value?_symbol : ∀ v, v < 64 → value? (symbol v) = some v := by decide

theorem symbol_ne_pad : ∀ v, v < 64 → symbol v ≠ pad := by decide

-- ============================================================ writing

/-- The symbols of a list of bytes. -/
def encodeList : List UInt8 → List UInt8
  | [] => []
  | [a] => [symbol (a.toNat / 4), symbol (a.toNat % 4 * 16), pad, pad]
  | [a, b] =>
    [symbol (a.toNat / 4), symbol (a.toNat % 4 * 16 + b.toNat / 16),
      symbol (b.toNat % 16 * 4), pad]
  | a :: b :: c :: rest =>
    symbol (a.toNat / 4) :: symbol (a.toNat % 4 * 16 + b.toNat / 16) ::
      symbol (b.toNat % 16 * 4 + c.toNat / 64) :: symbol (c.toNat % 64) :: encodeList rest

/-- The text of some bytes. -/
def encode (bytes : Bytes) : String :=
  String.ofList ((encodeList (Bytes.toList bytes)).map fun b => Char.ofNat b.toNat)

-- ============================================================ reading

/-- The three bytes of four six-bit values. -/
def group (p q r s : Nat) : List UInt8 :=
  [(p * 4 + q / 16).toUInt8, (q % 16 * 16 + r / 4).toUInt8, (r % 4 * 64 + s).toUInt8]

/-- The symbols of the last group, with the offset of each, up to its padding, and the number
of padding bytes; `padding` holds the offsets of those seen, latest first. -/
def lastSymbols (base : Nat) :
    (index : Nat) → (padding : List Nat) → List UInt8 → Except Fault (List (Nat × UInt8) × Nat)
  | _, padding, [] => .ok ([], padding.length)
  | i, padding, b :: rest =>
    if b = pad then
      if i < 2 then .error (.invalidSymbol b (base + i))
      else lastSymbols base (i + 1) ((base + i) :: padding) rest
    else match padding.getLast? with
      | some first => .error (.invalidSymbol pad first)
      | none =>
        match value? b with
        | none => .error (.invalidSymbol b (base + i))
        | some v => do
          let (symbols, pads) ← lastSymbols base (i + 1) padding rest
          return ((v, b) :: symbols, pads)

/-- The bytes of the last group. -/
def decodeLast (base : Nat) (group' : List UInt8) : Except Fault (List UInt8) := do
  let (symbols, pads) ← lastSymbols base 0 [] group'
  if symbols.length < 2 then throw (.invalidLength (base + symbols.length))
  if (symbols.length + pads) % 4 ≠ 0 then throw .invalidPadding
  match symbols with
  | [(p, _), (q, b)] =>
    if q % 16 ≠ 0 then throw (.invalidLastSymbol b (base + 1))
    return (group p q 0 0).take 1
  | [(p, _), (q, _), (r, b)] =>
    if r % 4 ≠ 0 then throw (.invalidLastSymbol b (base + 2))
    return (group p q r 0).take 2
  | (p, _) :: (q, _) :: (r, _) :: (s, _) :: _ => return group p q r s
  | _ => throw .invalidPadding

/-- The bytes of a text from an offset on: a group with more behind it has four symbols. -/
def decodeFrom (offset : Nat) : List UInt8 → Except Fault (List UInt8)
  | [] => .ok []
  | a :: b :: c :: d :: e :: rest => do
    let p ← valueAt offset a
    let q ← valueAt (offset + 1) b
    let r ← valueAt (offset + 2) c
    let s ← valueAt (offset + 3) d
    return group p q r s ++ (← decodeFrom (offset + 4) (e :: rest))
  | last => decodeLast offset last

/-- A single byte after the last full group that is no symbol is reported before all else. -/
def strayByte? (text : List UInt8) : Option Fault :=
  match text.getLast? with
  | some b =>
    if text.length % 4 = 1 ∧ b ≠ pad ∧ (value? b).isNone then
      some (.invalidSymbol b (text.length - 1))
    else none
  | none => none

/-- The bytes a text stands for. -/
def decode (text : String) : Except Fault Bytes :=
  let symbols := Bytes.toList text.toUTF8
  match strayByte? symbols with
  | some fault => .error fault
  | none => do return Bytes.ofList (← decodeFrom 0 symbols)

end Base64

end ProviderLink
