/-
Bytes arrive in pieces of any size. A reader and a server at work keep
what they have of a line that is not complete, so feeding them one piece
after the other is feeding them all bytes at once (`Reader.feed_pieces`,
`Serving.feed_pieces`).

So a stream may be taken to be carried by pipes that cut what they carry
as they like (`PipedStream`): its exchanges are those of a stream that
carries everything in one piece (`PipedStream.exchange_eq`).
-/
import ProviderLink.Proofs.Text.Line
import ProviderLink.Rpc.Stream

namespace ProviderLink.Rpc

open Text

/-- Feeding piece by piece, where it may be done one piece after the other and leaves over no
complete line. -/
theorem foldl_pieces {σ : Type} {feed : σ → List UInt8 → σ} {pending : σ → List UInt8}
    (hnil : ∀ s, newline ∉ pending s → feed s [] = s)
    (happend : ∀ s bytes more, feed s (bytes ++ more) = feed (feed s bytes) more)
    (hpending : ∀ s bytes, newline ∉ pending (feed s bytes)) (pieces : List (List UInt8)) :
    ∀ s, newline ∉ pending s → pieces.foldl feed s = feed s pieces.flatten := by
  induction pieces with
  | nil => exact fun s h => (hnil s h).symm
  | cons piece pieces ih =>
      intro s _
      rw [List.foldl_cons, ih _ (hpending s piece), List.flatten_cons, happend]

-- ============================================================= readers

namespace Reader

/-- Reporting leaves alone what is pending. -/
theorem line_pending (r : Reader) (bytes : List UInt8) (text : Option String) :
    ({ r with pending := bytes } : Reader).line text = { r.line text with pending := bytes } := by
  cases text with
  | none =>
      simp only [line, report]
      split <;> rfl
  | some text =>
      simp only [line, report]
      split
      · rfl
      · split <;> rfl

/-- So does reporting lines. -/
theorem foldl_line_pending (texts : List (Option String)) : ∀ (r : Reader) (bytes : List UInt8),
    texts.foldl line { r with pending := bytes }
      = { texts.foldl line r with pending := bytes } := by
  induction texts with
  | nil => exact fun _ _ => rfl
  | cons text texts ih =>
      intro r bytes
      rw [List.foldl_cons, line_pending, ih, List.foldl_cons]

/-- What is fed: the lines are reported and the rest is pending. -/
theorem feed_eq (r : Reader) (bytes : List UInt8) :
    r.feed bytes
      = { ((splitLines (r.pending ++ bytes)).1.map lineText?).foldl line r with
          pending := (splitLines (r.pending ++ bytes)).2 } := by
  rw [← foldl_line_pending]
  rfl

/-- Feeding goes on where it stopped. -/
theorem feed_append (r : Reader) (bytes more : List UInt8) :
    r.feed (bytes ++ more) = (r.feed bytes).feed more := by
  have hsplit := splitLines_append (r.pending ++ bytes) more
  rw [List.append_assoc] at hsplit
  simp only [feed_eq, hsplit, List.map_append, List.foldl_append, foldl_line_pending]

theorem feed_nil {r : Reader} (h : newline ∉ r.pending) : r.feed [] = r := by
  rw [feed_eq, List.append_nil, splitLines_rest h]
  rfl

/-- Feeding piece by piece is feeding all at once. -/
theorem feed_pieces {r : Reader} (h : newline ∉ r.pending) (pieces : List (List UInt8)) :
    pieces.foldl feed r = r.feed pieces.flatten :=
  foldl_pieces (fun _ hs => feed_nil hs) feed_append
    (fun r bytes => by rw [feed_eq]; exact newline_notMem_rest _) pieces r h

end Reader

-- ============================================================= serving

namespace Serving

variable {π : Type} [Provider π]

/-- Answering a line leaves alone what is pending. -/
theorem line_pending (s : Serving π) (bytes : List UInt8) (text : Option String) :
    ({ s with pending := bytes } : Serving π).line text
      = { s.line text with pending := bytes } := by
  cases text with
  | none => rfl
  | some text =>
      simp only [line]
      split <;> rfl

/-- So does answering lines. -/
theorem lines_pending (texts : List (Option String)) :
    ∀ (s : Serving π) (bytes : List UInt8),
      ({ s with pending := bytes } : Serving π).lines texts
        = { s.lines texts with pending := bytes } := by
  induction texts with
  | nil => exact fun _ _ => rfl
  | cons text texts ih =>
      intro s bytes
      rw [lines, lines, line_pending, ih]
      split <;> rfl

/-- What is pending stays so. -/
theorem pending_lines (s : Serving π) (lines : List (Option String)) :
    (s.lines lines).pending = s.pending := by
  have hkept : s.lines lines = { s.lines lines with pending := s.pending } :=
    s.lines_pending lines s.pending
  rw [hkept]

/-- Once serving has ended, lines are left unanswered. -/
theorem lines_of_ended {s : Serving π} (h : s.ended.isSome) (texts : List (Option String)) :
    s.lines texts = s := by
  cases texts with
  | nil => rfl
  | cons => rw [lines, if_pos h]

/-- Lines are answered one after the other. -/
theorem lines_append (texts more : List (Option String)) : ∀ s : Serving π,
    s.lines (texts ++ more) = (s.lines texts).lines more := by
  induction texts with
  | nil => exact fun _ => rfl
  | cons text texts ih =>
      intro s
      rw [List.cons_append, lines, lines]
      split
      · next hended => exact (lines_of_ended hended more).symm
      · exact ih _

/-- What is fed: the lines are answered and the rest is pending. -/
theorem feed_eq (s : Serving π) (bytes : List UInt8) :
    s.feed bytes
      = { s.lines ((splitLines (s.pending ++ bytes)).1.map lineText?) with
          pending := (splitLines (s.pending ++ bytes)).2 } := by
  rw [← lines_pending]
  rfl

/-- Feeding goes on where it stopped. -/
theorem feed_append (s : Serving π) (bytes more : List UInt8) :
    s.feed (bytes ++ more) = (s.feed bytes).feed more := by
  have hsplit := splitLines_append (s.pending ++ bytes) more
  rw [List.append_assoc] at hsplit
  simp only [feed_eq, hsplit, List.map_append, lines_append, lines_pending]

theorem feed_nil {s : Serving π} (h : newline ∉ s.pending) : s.feed [] = s := by
  rw [feed_eq, List.append_nil, splitLines_rest h]
  rfl

/-- Feeding piece by piece is feeding all at once. -/
theorem feed_pieces {s : Serving π} (h : newline ∉ s.pending) (pieces : List (List UInt8)) :
    pieces.foldl feed s = s.feed pieces.flatten :=
  foldl_pieces (fun _ hs => feed_nil hs) feed_append
    (fun s bytes => by rw [feed_eq]; exact newline_notMem_rest _) pieces s h

end Serving

-- =============================================================== pipes

/-- A pipe: how it cuts what it is given next, behind what it carried before. It loses nothing
and keeps the order. -/
structure Pipe where
  cut : List UInt8 → List UInt8 → List (List UInt8)
  flatten_cut : ∀ before bytes, (cut before bytes).flatten = bytes

/-- A stream to a server, with the pipes that carry it and what was sent into the first. -/
structure PipedStream (π : Type) where
  stream : ServedStream π
  sent : List UInt8
  toServer : Pipe
  toClient : Pipe

namespace PipedStream

variable {π : Type}

/-- A stream over pipes to a new server. -/
def new (toServer toClient : Pipe) (provider : π) : PipedStream π :=
  ⟨.new provider, [], toServer, toClient⟩

variable [Provider π]

/-- Hands bytes to the server in the pieces they come in, and what it writes to the reader in
the pieces that comes in. -/
def send (t : PipedStream π) (bytes : List UInt8) : PipedStream π :=
  let serving := (t.toServer.cut t.sent bytes).foldl Serving.feed t.stream.serving
  let written := t.stream.serving.output.written
  let fresh := serving.output.written.drop written.length
  let reader := (t.toClient.cut written fresh).foldl Reader.feed t.stream.reader
  { t with
    stream := ⟨serving, if serving.ended.isSome then reader.finish .eof else reader⟩
    sent := t.sent ++ bytes }

/-- Writes a request and waits for its response. -/
def exchange (r : Request) (t : PipedStream π) : Outcome Response × PipedStream π :=
  if t.stream.serving.ended.isSome then (.error sendFailure, t)
  else
    let t := t.send (lineBytes r.text)
    let reader := t.stream.reader
    let (answer, queue) := awaitResponse r.id (noEvent r.method 0 reader.gone) reader.queue
    (answer, { t with stream := { t.stream with reader := { reader with queue } } })

instance : Transport (PipedStream π) := ⟨exchange⟩

/-- However the pipes cut, the stream is as if they did not. -/
theorem stream_send {t : PipedStream π} (hserving : newline ∉ t.stream.serving.pending)
    (hreader : newline ∉ t.stream.reader.pending) (bytes : List UInt8) :
    (t.send bytes).stream = t.stream.send bytes := by
  rw [send]
  simp only [Serving.feed_pieces hserving, Pipe.flatten_cut, Reader.feed_pieces hreader]
  rfl

/-- So an exchange over pipes is an exchange over the stream. -/
theorem exchange_eq {t : PipedStream π} (hserving : newline ∉ t.stream.serving.pending)
    (hreader : newline ∉ t.stream.reader.pending) (r : Request) :
    (t.exchange r).1 = (t.stream.exchange r).1
      ∧ (t.exchange r).2.stream = (t.stream.exchange r).2 := by
  have hsend := stream_send hserving hreader (lineBytes r.text)
  rw [exchange, ServedStream.exchange]
  by_cases hended : t.stream.serving.ended.isSome
  · rw [if_pos hended, if_pos hended]
    exact ⟨rfl, rfl⟩
  · rw [if_neg hended, if_neg hended]
    simp only [hsend]
    exact ⟨rfl, rfl⟩

end PipedStream

end ProviderLink.Rpc
