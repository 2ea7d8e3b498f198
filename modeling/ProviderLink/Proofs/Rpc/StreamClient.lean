/-
A client at the other end of a stream, next to one in the same process.
Between exchanges the stream is idle (`ServedStream.Idle`): nothing is
left over of a line, the queue of the reader is empty, and the server
serves. An exchange sends one line and is answered with one line, which
carries the id of the request, so it takes that line from the queue and
leaves the stream idle (`exchange_idle`).

So the two clients are given the same answers and do the same to the
provider (`stands_alike`), and when the stream is closed between calls,
serving ends well. Nothing is asked of the calls or of the answers: an
answer that nests too deep for its line is refused to both alike.
-/
import ProviderLink.Proofs.Rpc.LocalClient
import ProviderLink.Proofs.Rpc.Served

namespace ProviderLink.Rpc

open Json Text

-- =============================================================== lines

theorem Request.uncontrolled_text (r : Request) : Uncontrolled r.text :=
  r.toJson.uncontrolled_text

theorem Request.allBlank_text (r : Request) : allBlank r.text = false :=
  allBlank_text_object _

theorem Response.allBlank_text (r : Response) : allBlank r.text = false :=
  allBlank_text_object _

/-- A reader that has seen nothing reports a line. -/
theorem Reader.feed_line {text : String} (hline : Uncontrolled text)
    (hblank : allBlank text = false) :
    Reader.new.feed (lineBytes text) = ⟨[], [.line text], false⟩ := by
  rw [feed_eq, Reader.new, List.nil_append, splitLines_lineBytes hline, List.map_singleton,
    lineText?_toUTF8 hline, List.foldl_cons, List.foldl_nil, line, report,
    if_neg Bool.false_ne_true]
  simp only [hblank]
  rfl

/-- A line that is the response waited for, or none at all, is the only one taken. -/
theorem awaitResponse_line {id : RequestId} {text : String}
    (h : ∀ r, decodeResponse text = .ok r → r.id = id) (ifEmpty : ProviderError) :
    awaitResponse id ifEmpty [.line text] = (decodeResponse text, []) := by
  rw [awaitResponse]
  cases hdecode : decodeResponse text with
  | error e => rfl
  | ok r =>
      dsimp only
      rw [if_pos (h r hdecode)]

section Served

variable {π : Type} [Provider π]

/-- A server at work answers a line with a line. -/
theorem Serving.feed_line {text : String} (hline : Uncontrolled text)
    (hblank : allBlank text = false) {server server' : Server π} {conn conn' : Connection}
    {response : Response} (h : server.handleLine conn text = (response, server', conn'))
    (hopen : conn'.rejected = false) (written : List UInt8) :
    (⟨server, conn, [], ⟨written, none⟩, none⟩ : Serving π).feed (lineBytes text)
      = ⟨server', conn', [], ⟨written ++ lineBytes response.text, none⟩, none⟩ := by
  have hanswer : (⟨server, conn, [], ⟨written, none⟩, none⟩ : Serving π).line (some text)
      = ⟨server', conn', [], ⟨written ++ lineBytes response.text, none⟩, none⟩ := by
    rw [line_answer hblank rfl h, hopen]
    rfl
  have hlines : (⟨server, conn, [], ⟨written, none⟩, none⟩ : Serving π).lines [some text]
      = ⟨server', conn', [], ⟨written ++ lineBytes response.text, none⟩, none⟩ := by
    rw [lines, hanswer]
    rfl
  rw [feed_eq, List.nil_append, splitLines_lineBytes hline, List.map_singleton,
    lineText?_toUTF8 hline, hlines]

-- ============================================================= streams

/-- Between exchanges nothing is on its way, and serving goes on. -/
structure ServedStream.Idle (t : ServedStream π) : Prop where
  pending : t.serving.pending = []
  room : t.serving.output.room = none
  ended : t.serving.ended = none
  reader : t.reader = .new

/-- An exchange over an idle stream is one line there and one line back, and leaves it idle. -/
theorem ServedStream.exchange_idle {t : ServedStream π} (hidle : t.Idle) {r : Request}
    (hl : r.params.Legible) (hd : r.params.depth + 1 < maxDepth) {response : Response}
    {server : Server π} {conn : Connection}
    (h : t.serving.server.handleLine t.serving.connection r.text = (response, server, conn))
    (hopen : conn.rejected = false) :
    t.exchange r
      = (decodeResponse response.text,
        ⟨⟨server, conn, [], ⟨t.serving.output.written ++ lineBytes response.text, none⟩, none⟩,
          .new⟩) := by
  obtain ⟨⟨server₀, conn₀, pending, ⟨written, room⟩, ended⟩, reader⟩ := t
  obtain ⟨hpending, hroom, hended, hreader⟩ := hidle
  dsimp only at hpending hroom hended hreader h
  subst hpending hroom hended hreader
  have hserving := Serving.feed_line r.uncontrolled_text r.allBlank_text h hopen written
  have hreader := Reader.feed_line response.uncontrolled_text response.allBlank_text
  have hsend : (⟨⟨server₀, conn₀, [], ⟨written, none⟩, none⟩, .new⟩ : ServedStream π).send
      (lineBytes r.text)
      = ⟨⟨server, conn, [], ⟨written ++ lineBytes response.text, none⟩, none⟩,
          ⟨[], [.line response.text], false⟩⟩ := by
    simp only [send, hserving, List.drop_left, hreader]
    rfl
  -- the queue holds this response alone, so it must not be discarded
  have hid : ∀ r', decodeResponse response.text = .ok r' → r'.id = r.id := by
    obtain ⟨result, hsendable, hrespond⟩ := Server.exists_respond hl hd server₀ conn₀
    rw [h] at hrespond
    dsimp only at hrespond
    rw [hrespond]
    exact fun r' hr' => id_of_decodeResponse hsendable hr'
  have hnone : ¬(none : Option (Except ServeFault Unit)).isSome = true := Bool.false_ne_true
  rw [lineBytes] at hsend
  simp only [exchange, if_neg hnone, hsend, awaitResponse_line hid]
  rfl

/-- An idle stream that is closed has been served well. -/
theorem ServedStream.Idle.ended_close {t : ServedStream π} (h : t.Idle) :
    t.close.serving.ended = some (.ok ()) := by
  rw [close, Serving.close_of_pending h.pending, Serving.result, h.ended]
  rfl

-- ============================================================== alike

/-- A stream over pipes that is idle, and a link to a server in the same state. -/
structure Twin (t : PipedStream π) (l : LocalLink π) : Prop where
  idle : t.stream.Idle
  server : t.stream.serving.server = l.server
  connection : t.stream.serving.connection = l.connection

/-- A request is answered alike over both, and leaves both in the same state. -/
theorem exchange_twin {t : PipedStream π} {l : LocalLink π} (h : Twin t l) {r : Request}
    (hl : r.params.Legible) (hd : r.params.depth + 1 < maxDepth)
    (hopen : (l.server.handleLine l.connection r.text).2.2.rejected = false) :
    (Transport.exchange r t).1 = (Transport.exchange r l).1
      ∧ Twin (Transport.exchange r t).2 (Transport.exchange r l).2 := by
  have hserving : newline ∉ t.stream.serving.pending := by
    rw [h.idle.pending]
    exact List.not_mem_nil
  have hreader : newline ∉ t.stream.reader.pending := by
    rw [h.idle.reader]
    exact List.not_mem_nil
  have hfold : Transport.exchange r t = t.exchange r := rfl
  obtain ⟨hanswer, hstream⟩ := PipedStream.exchange_eq hserving hreader r
  rcases hhandled : l.server.handleLine l.connection r.text with ⟨response, server, conn⟩
  have hline : t.stream.serving.server.handleLine t.stream.serving.connection r.text
      = (response, server, conn) := by
    rw [h.server, h.connection, hhandled]
  rw [hhandled] at hopen
  have hidle := ServedStream.exchange_idle h.idle hl hd hline hopen
  rw [hidle] at hanswer hstream
  rw [hfold, LocalLink.exchange_eq, hhandled]
  refine ⟨hanswer, ?_, ?_, ?_⟩
  · rw [hstream]
    exact ⟨rfl, rfl, rfl, rfl⟩
  · rw [hstream]
  · rw [hstream]

-- ============================================================= clients

/-- Clients of two such transports that go on with the same id, over a connection that was not
refused. -/
structure Alike (piped : Client (PipedStream π)) (direct : Client (LocalLink π)) : Prop where
  twin : Twin piped.transport direct.transport
  nextId : piped.nextId = direct.nextId
  accepted : direct.transport.connection.rejected = false

/-- Whatever two such clients request, they are given the same. -/
theorem request_alike {α : Type} {piped : Client (PipedStream π)}
    {direct : Client (LocalLink π)} (h : Alike piped direct) (method : Method)
    {params : Json} (hl : params.Legible) (hd : params.depth + 1 < maxDepth)
    (hopen : (direct.transport.server.handleLine direct.transport.connection
      (Request.text ⟨version, .number direct.nextId, method.name, params⟩)).2.2.rejected
        = false)
    (read : Json.Reader α) :
    (piped.request method params read).1 = (direct.request method params read).1
      ∧ Alike (piped.request method params read).2 (direct.request method params read).2 := by
  obtain ⟨transport, n⟩ := piped
  obtain ⟨link, m⟩ := direct
  obtain ⟨htwin, hid, -⟩ := h
  dsimp only at htwin hid hopen
  subst hid
  obtain ⟨hanswer, hafter⟩ := exchange_twin htwin
    (r := ⟨version, .number n, method.name, params⟩) hl hd hopen
  rw [Client.request_eq, Client.request_eq]
  dsimp only
  refine ⟨by rw [hanswer], ?_⟩
  constructor
  · dsimp only
    exact hafter
  · rfl
  · rw [LocalLink.exchange_eq]
    dsimp only
    exact hopen

/-- So it is with calls. -/
theorem call_alike {piped : Client (PipedStream π)} {direct : Client (LocalLink π)}
    (h : Alike piped direct) (c : Call) :
    (Provider.call c piped).1 = (Provider.call c direct).1
      ∧ Alike (Provider.call c piped).2 (Provider.call c direct).2 := by
  -- only a handshake can have the connection refused
  have hname : c.method.name ≠ Method.handshake.name := fun heq =>
    nomatch Server.name_inj heq
  have hdepth : c.params.depth + 1 < maxDepth :=
    Nat.lt_of_le_of_lt (Nat.succ_le_succ c.depth_params_le) (by decide)
  refine request_alike h c.method c.legible_params hdepth ?_ c.readReply
  rw [Server.handleLine_connection c.legible_params hdepth hname]
  exact h.accepted

/-- A client over a stream stands for one in the process of the server, whatever is asked and
answered. -/
theorem stands_alike :
    Provider.Stands (fun _ => True) (fun _ => True) (Alike (π := π)) where
  outcome h c _ _ := (call_alike h c).1
  after h c _ _ := (call_alike h c).2

/-- A handshake that both sides agree on is heard over a stream, and leaves the client there like
one in the process of the server. -/
theorem handshake_alike {params : HandshakeParams} {result : HandshakeResult}
    (h : negotiate params = .ok result) (toServer toClient : Pipe) (p : π) :
    ∃ piped : Client (PipedStream π),
      (⟨PipedStream.new toServer toClient p, 1⟩ : Client (PipedStream π)).request .handshake
          params.toJson.canonical HandshakeResult.read = (.ok result, piped)
        ∧ Alike piped ⟨⟨.new p, .established⟩, 1 + 1⟩ := by
  have halike : Alike ⟨PipedStream.new toServer toClient p, 1⟩ ⟨⟨.new p, .new⟩, 1⟩ :=
    ⟨⟨⟨rfl, rfl, rfl, rfl⟩, rfl, rfl⟩, rfl, rfl⟩
  obtain ⟨hanswer, hafter⟩ := request_alike halike .handshake
    (legible_canonical _ params.legible_toJson) params.depth_canonical_lt
    (by rw [handleLine_handshake h]; rfl) HandshakeResult.read
  rw [request_handshake h] at hanswer hafter
  exact ⟨_, Prod.ext hanswer rfl, hafter⟩

/-- Both connect, and are then alike. -/
theorem connect_alike (toServer toClient : Pipe) (p : π) :
    ∃ (piped : Client (PipedStream π)) (direct : Client (LocalLink π)),
      Client.connect (PipedStream.new toServer toClient p) = (.ok (), piped)
        ∧ Client.connect (LocalLink.new p) = (.ok (), direct)
        ∧ Alike piped direct := by
  have hagreed : negotiate .current = .ok ⟨protocolVersion⟩ := rfl
  obtain ⟨piped, hpiped, halike⟩ := handshake_alike hagreed toServer toClient p
  have hconnect : Client.connect (PipedStream.new toServer toClient p) = (.ok (), piped) :=
    Client.connectIf_of_request hpiped
  have hdirect : Client.connect (LocalLink.new p)
      = (.ok (), ⟨⟨.new p, .established⟩, 1 + 1⟩) :=
    Client.connectIf_of_request (request_handshake hagreed (.new p) 1)
  exact ⟨piped, _, hconnect, hdirect, halike⟩

-- ================================================================ runs

/-- However the pipes cut what they carry, a client over a stream connects as one in the process
of the server does, it is given the same answers call by call, and the provider behind it
receives the same calls and ends in the same state. When the stream is closed then, serving has
ended well. -/
theorem run_piped (p : π) (toServer toClient : Pipe) (calls : List Call) :
    ∃ (piped : Client (PipedStream (Recorded π))) (direct : Client (LocalLink (Recorded π))),
      Client.connect (PipedStream.new toServer toClient ⟨p, []⟩) = (.ok (), piped)
        ∧ Client.connect (LocalLink.new ⟨p, []⟩) = (.ok (), direct)
        ∧ (Provider.run calls piped).1 = (Provider.run calls direct).1
        ∧ (Provider.run calls piped).2.transport.stream.serving.server
          = (Provider.run calls direct).2.transport.server
        ∧ (Provider.run calls piped).2.transport.stream.close.serving.ended
          = some (.ok ()) := by
  obtain ⟨piped, direct, hpiped, hdirect, halike⟩ :=
    connect_alike toServer toClient (Recorded.mk p [])
  obtain ⟨hanswers, hafter⟩ := Provider.run_of_stands stands_alike calls halike
    (fun _ _ => trivial) (fun _ _ => trivial)
  exact ⟨piped, direct, hpiped, hdirect, hanswers, hafter.twin.server,
    hafter.twin.idle.ended_close⟩

end Served

end ProviderLink.Rpc
