/-
The stream transport: newline-delimited messages over a pair of byte
streams. A reader turns the incoming bytes into events — a line that is
not blank, a failure, the end — and queues them; after a failure or the
end it is gone. An exchange writes its request and then takes events off
the queue until one decides it: a response with another id is discarded
and the next event taken, so an exchange takes a prefix of the queue and
leaves the rest to later ones.
-/
import ProviderLink.Rpc.Serving
import ProviderLink.Rpc.Transport

namespace ProviderLink.Rpc

/-- What the reader of a stream reports. -/
inductive ReaderEvent
  | line (text : String)
  | failure (message : String)
  | closed
  deriving DecidableEq, Repr

/-- How incoming bytes end. -/
inductive StreamEnd
  | eof
  /-- Nothing more comes, and no end either. -/
  | silence
  | failure (message : String)
  deriving DecidableEq, Repr

/-- The reader of a stream and the events it has queued. -/
structure Reader where
  /-- What arrived of a line that is not complete yet. -/
  pending : List UInt8
  queue : List ReaderEvent
  /-- The reader reports nothing any more. -/
  gone : Bool
  deriving DecidableEq

namespace Reader

/-- A reader that has seen nothing. -/
def new : Reader := ⟨[], [], false⟩

/-- What a reader says of a line that is not text. -/
def notText : String := "stream did not contain valid UTF-8"

/-- One event more, unless the reader is gone; a failure or the end is its last. -/
def report (r : Reader) (e : ReaderEvent) : Reader :=
  if r.gone then r
  else match e with
  | .line text =>
    if Text.allBlank text then r else { r with queue := r.queue ++ [.line text] }
  | e => { r with queue := r.queue ++ [e], gone := true }

/-- Reports a line; `none` stands for one that is not text. -/
def line (r : Reader) : Option String → Reader
  | some text => r.report (.line text)
  | none => r.report (.failure notText)

/-- Takes in bytes and reports the lines they complete. -/
def feed (r : Reader) (bytes : List UInt8) : Reader :=
  let (complete, rest) := Text.splitLines (r.pending ++ bytes)
  (complete.map Text.lineText?).foldl line { r with pending := rest }

/-- The bytes end. Only a proper end completes the line before it. -/
def finish (r : Reader) : StreamEnd → Reader
  | .silence => r
  | .failure message => r.report (.failure message)
  | .eof =>
    let r := if r.pending.isEmpty then r else r.line (Text.lastLineText? r.pending)
    r.report .closed

end Reader

-- ============================================================ exchange

/-- The failure of an exchange that comes to the end. -/
def closedFailure : ProviderError := .transport "provider closed the connection"

/-- The failure of an exchange whose time runs out. -/
def timedOut (method : String) (timeout : Nat) : ProviderError :=
  .transport
    ("timed out waiting for " ++ method ++ " response after " ++ toString timeout ++ "ms")

/-- Takes events until one decides the exchange: the outcome and the events left. `ifEmpty` is
the failure of an exchange that finds no event. -/
def awaitResponse (id : RequestId) (ifEmpty : ProviderError) :
    List ReaderEvent → Outcome Response × List ReaderEvent
  | [] => (.error ifEmpty, [])
  | .line text :: rest =>
    match decodeResponse text with
    | .error e => (.error e, rest)
    | .ok r => if r.id = id then (.ok r, rest) else awaitResponse id ifEmpty rest
  | .failure message :: rest =>
    (.error (.transport ("failed to read response: " ++ message)), rest)
  | .closed :: rest => (.error closedFailure, rest)

/-- The failure of an exchange that finds no event: the reader is gone, or time runs out. -/
def noEvent (method : String) (timeout : Nat) (gone : Bool) : ProviderError :=
  if gone then closedFailure else timedOut method timeout

/-- The failure of a request that the outgoing stream does not take. -/
def sendFailure : ProviderError := .transport "failed to send request: reader dropped"

/-- A stream whose incoming bytes are all there from the start. -/
structure RecordedStream where
  reader : Reader
  output : Output
  /-- How long an exchange waits, in milliseconds. -/
  timeout : Nat

namespace RecordedStream

/-- A stream of some bytes that end in some way. -/
def new (bytes : List UInt8) (ends : StreamEnd) (timeout : Nat) (room : Option Nat) :
    RecordedStream :=
  ⟨(Reader.new.feed bytes).finish ends, ⟨[], room⟩, timeout⟩

/-- Writes a request and waits for its response. -/
def exchange (r : Request) (t : RecordedStream) : Outcome Response × RecordedStream :=
  let (fits, output) := t.output.writeLine r.text
  if !fits then (.error sendFailure, { t with output })
  else
    let (answer, queue) :=
      awaitResponse r.id (noEvent r.method t.timeout t.reader.gone) t.reader.queue
    (answer, { t with output, reader := { t.reader with queue } })

instance : Transport RecordedStream := ⟨exchange⟩

end RecordedStream

-- ============================================================== served

/-- A stream whose other end is a server at work. -/
structure ServedStream (π : Type) where
  serving : Serving π
  reader : Reader

namespace ServedStream

variable {π : Type}

def new (provider : π) : ServedStream π := ⟨.start (.new provider) none, .new⟩

/-- Hands bytes to the server and what it writes to the reader; once serving has ended, so has
the stream. -/
def send [Provider π] (t : ServedStream π) (bytes : List UInt8) : ServedStream π :=
  let serving := t.serving.feed bytes
  let fresh := serving.output.written.drop t.serving.output.written.length
  let reader := t.reader.feed fresh
  ⟨serving, if serving.ended.isSome then reader.finish .eof else reader⟩

/-- Writes a request and waits for its response. -/
def exchange [Provider π] (r : Request) (t : ServedStream π) :
    Outcome Response × ServedStream π :=
  if t.serving.ended.isSome then (.error sendFailure, t)
  else
    let t := t.send (Bytes.toList r.text.toUTF8 ++ [Text.newline])
    let (answer, queue) := awaitResponse r.id (noEvent r.method 0 t.reader.gone) t.reader.queue
    (answer, { t with reader := { t.reader with queue } })

instance [Provider π] : Transport (ServedStream π) := ⟨exchange⟩

/-- Closes the client's end, which ends serving. -/
def close [Provider π] (t : ServedStream π) : ServedStream π :=
  { t with serving := t.serving.close }

end ServedStream

end ProviderLink.Rpc
