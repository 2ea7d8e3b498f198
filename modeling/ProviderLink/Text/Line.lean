/-
Lines of a byte stream. A line ends with a newline, which may follow a
carriage return that then belongs to the end as well; a stream may stop
in the middle of its last line. Bytes arrive in pieces of any size, so
what follows the last newline is kept for the next piece.
-/
import ProviderLink.Bytes

namespace ProviderLink.Text

/-- The byte of a newline. -/
def newline : UInt8 := 10

/-- The byte of a carriage return. -/
def carriageReturn : UInt8 := 13

/-- The complete lines of some bytes, without their newlines, and what follows the last. -/
def splitLines : List UInt8 → List (List UInt8) × List UInt8
  | [] => ([], [])
  | b :: bs =>
    let (lines, rest) := splitLines bs
    if b = newline then ([] :: lines, rest)
    else match lines with
    | [] => ([], b :: rest)
    | line :: lines => ((b :: line) :: lines, rest)

/-- A line without the carriage return at its end. -/
def dropReturn (line : List UInt8) : List UInt8 :=
  if line.getLast? = some carriageReturn then line.dropLast else line

/-- The text of a complete line, if it is UTF-8. -/
def lineText? (line : List UInt8) : Option String := Bytes.text? (Bytes.ofList (dropReturn line))

/-- The text of a last line that no newline ends; a carriage return in it stays. -/
def lastLineText? (line : List UInt8) : Option String := Bytes.text? (Bytes.ofList line)

end ProviderLink.Text
