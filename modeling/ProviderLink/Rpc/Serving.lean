/-
Serving one connection over a pair of byte streams. Each line that is
not blank is answered with one line; serving ends with the input, with a
line that is not text, with an output that takes no more, or when the
connection's handshake is refused, which is answered first.
-/
import ProviderLink.Rpc.Server
import ProviderLink.Text.Character
import ProviderLink.Text.Line

namespace ProviderLink.Rpc

/-- An output stream: what was written, and how many bytes more it takes if that is limited. -/
structure Output where
  written : List UInt8
  room : Option Nat

namespace Output

/-- Writes a piece as a whole, or nothing of it if it does not fit. -/
def write (piece : List UInt8) (o : Output) : Option Output :=
  match o.room with
  | none => some { o with written := o.written ++ piece }
  | some room =>
    if piece.length ≤ room then some ⟨o.written ++ piece, some (room - piece.length)⟩ else none

/-- Writes a piece and then another; whether both fitted, and the output afterwards. -/
def writeBoth (first second : List UInt8) (o : Output) : Bool × Output :=
  match o.write first with
  | none => (false, o)
  | some o =>
    match o.write second with
    | none => (false, o)
    | some o => (true, o)

/-- Writes a text and a newline. -/
def writeLine (text : String) (o : Output) : Bool × Output :=
  o.writeBoth (Bytes.toList text.toUTF8) [Text.newline]

end Output

/-- Why serving ends before the input does. -/
inductive ServeFault
  | unreadableLine
  | unwritableLine
  | handshakeRejected
  deriving DecidableEq, Repr

def ServeFault.message : ServeFault → String
  | unreadableLine => "failed to read request line"
  | unwritableLine => "failed to write response line"
  | handshakeRejected => "runner handshake rejected; closing connection"

/-- A server at work on one connection. -/
structure Serving (π : Type) where
  server : Server π
  connection : Connection
  /-- What arrived of a line that is not complete yet. -/
  pending : List UInt8
  output : Output
  /-- How serving ended, if it has. -/
  ended : Option (Except ServeFault Unit)

namespace Serving

variable {π : Type}

/-- A server about to serve. -/
def start (server : Server π) (room : Option Nat) : Serving π :=
  ⟨server, .new, [], ⟨[], room⟩, none⟩

/-- Answers one line; `none` stands for a line that is not text. -/
def line [Provider π] (s : Serving π) (text : Option String) : Serving π :=
  match text with
  | none => { s with ended := some (.error .unreadableLine) }
  | some text =>
    if Text.allBlank text then s
    else
      let (response, server, connection) := s.server.handleLine s.connection text
      let (fits, output) := s.output.writeLine response.text
      let ended :=
        if !fits then some (.error .unwritableLine)
        else if connection.rejected then some (.error .handshakeRejected)
        else none
      { s with server, connection, output, ended }

/-- Answers lines until serving ends. -/
def lines [Provider π] (s : Serving π) : List (Option String) → Serving π
  | [] => s
  | text :: rest => if s.ended.isSome then s else lines (s.line text) rest

/-- Takes in bytes and answers the lines they complete. -/
def feed [Provider π] (s : Serving π) (bytes : List UInt8) : Serving π :=
  let (complete, rest) := Text.splitLines (s.pending ++ bytes)
  { s with pending := rest }.lines (complete.map Text.lineText?)

/-- The input ends: a last line without a newline is answered too. -/
def close [Provider π] (s : Serving π) : Serving π :=
  let s := if s.pending.isEmpty then s else s.lines [Text.lastLineText? s.pending]
  if s.ended.isSome then s else { s with ended := some (.ok ()) }

/-- How serving ended; an input still open counts as a good end. -/
def result (s : Serving π) : Except ServeFault Unit := s.ended.getD (.ok ())

end Serving

/-- Serves a whole input. -/
def serve {π : Type} [Provider π] (server : Server π) (room : Option Nat)
    (input : List UInt8) : Serving π :=
  ((Serving.start server room).feed input).close

end ProviderLink.Rpc
