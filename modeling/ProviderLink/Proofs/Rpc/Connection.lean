/-
The life of a connection. It opens, and one thing may become of it: its
handshake is completed, or refused. Either is final
(`Connection.Advances`), and whatever comes in over it, and over the
other connections of its server, takes it no other way.

So what a connection has come to decides what requests can still do: a
handshake that cannot be read leaves it open for the next, a repeated
one is turned down without harm, and on a refused connection no request
gets anywhere (`run_connection`).
-/
import ProviderLink.Proofs.Rpc.Established
import ProviderLink.Provider.Demo

namespace ProviderLink.Rpc

open Json

-- ============================================================= requests

/-- The request that a line is, if it is one. -/
def Request.ofText? (line : String) : Option Request :=
  (Json.ofText? line).bind fun v => (Request.read v).toOption

/-- A line that is a request of this protocol. -/
structure Asks (line : String) (r : Request) : Prop where
  read : Request.ofText? line = some r
  version : r.jsonrpc = version

/-- The line of a request is that request as it arrives. -/
theorem asks_text {r : Request} (hl : r.params.Legible) (hd : r.params.depth + 1 < maxDepth)
    (hversion : r.jsonrpc = version) : Asks r.text r.received := by
  refine ⟨?_, hversion⟩
  rw [Request.ofText?, Request.ofText?_text hl hd, Option.bind_some, Request.read_canonical]
  rfl

/-- A handshake whose parameters cannot be read. -/
def Request.Malformed (r : Request) : Prop :=
  r.method = Method.handshake.name ∧ ∃ fault, HandshakeParams.read r.params = .error fault

/-- A handshake that comes to a result. -/
def Request.Agrees (r : Request) (result : HandshakeResult) : Prop :=
  r.method = Method.handshake.name
    ∧ ∃ p, HandshakeParams.read r.params = .ok p ∧ negotiate p = .ok result

/-- A runner's handshake. -/
def handshakeRequest (id : RequestId) (p : HandshakeParams) : Request :=
  ⟨version, id, Method.handshake.name, p.toJson.canonical⟩

theorem read_handshakeRequest (id : RequestId) (p : HandshakeParams) :
    HandshakeParams.read (handshakeRequest id p).params = .ok p :=
  p.read_canonical

theorem agrees_handshakeRequest (id : RequestId) {p : HandshakeParams} {result : HandshakeResult}
    (h : negotiate p = .ok result) : (handshakeRequest id p).Agrees result :=
  ⟨rfl, p, read_handshakeRequest id p, h⟩

/-- A handshake fits into a line. -/
theorem HandshakeParams.depth_canonical_lt (params : HandshakeParams) :
    params.toJson.canonical.depth + 1 < maxDepth := by
  have hle := depth_canonical_le params.toJson
  have hmax : maxDepth = 128 := rfl
  rw [params.depth_toJson] at hle
  omega

/-- It arrives as it was sent. -/
theorem asks_handshakeRequest (id : RequestId) (p : HandshakeParams) :
    Asks (handshakeRequest id p).text (handshakeRequest id p) := by
  have hreceived : (handshakeRequest id p).received = handshakeRequest id p := by
    rw [Request.received, handshakeRequest, canonical_canonical]
  have hasks := asks_text (r := handshakeRequest id p) (legible_canonical _ p.legible_toJson)
    p.depth_canonical_lt rfl
  rwa [hreceived] at hasks

-- ========================================================== connections

namespace Connection

/-- A connection whose handshake was refused. -/
def refused : Connection := ⟨false, true⟩

/-- What may become of a connection, at once or in the long run. -/
inductive Advances : Connection → Connection → Prop
  | same (conn : Connection) : Advances conn conn
  | completed : Advances new established
  | refused : Advances new refused

namespace Advances

variable {conn conn' conn'' : Connection}

theorem trans (h : Advances conn conn') (h' : Advances conn' conn'') :
    Advances conn conn'' := by
  cases h with
  | same => exact h'
  | completed =>
      cases h'
      exact .completed
  | refused =>
      cases h'
      exact .refused

/-- A completed handshake stays completed. -/
theorem complete (h : Advances conn conn') (hc : conn.handshakeComplete = true) :
    conn'.handshakeComplete = true := by
  cases h with
  | same => exact hc
  | completed | refused => cases hc

/-- A refused connection stays refused. -/
theorem rejected (h : Advances conn conn') (hr : conn.rejected = true) :
    conn'.rejected = true := by
  cases h with
  | same => exact hr
  | completed | refused => cases hr

/-- No connection is past its handshake and refused. -/
theorem not_both (h : Advances new conn) :
    ¬(conn.handshakeComplete = true ∧ conn.rejected = true) := by
  cases h <;> exact (by decide)

/-- There is one way to be past the handshake. -/
theorem eq_established (h : Advances new conn) (hc : conn.handshakeComplete = true) :
    conn = established := by
  cases h with
  | completed => rfl
  | same | refused => cases hc

/-- A connection that nothing has become of yet is as it opened. -/
theorem eq_new (h : Advances new conn) (hc : conn.handshakeComplete = false)
    (hr : conn.rejected = false) : conn = new := by
  cases h with
  | same => rfl
  | completed => cases hc
  | refused => cases hr

end Advances

end Connection

-- =============================================================== server

namespace Server

variable {π : Type} [Provider π]

/-- A request takes the connection no other way. -/
theorem dispatch_advances (s : Server π) (conn : Connection) (r : Request) :
    conn.Advances (s.dispatch conn r).2.2 := by
  rcases s.dispatch_cases conn r with ⟨e, heq⟩ | ⟨hrejected, -, heq⟩ | ⟨-, c, -, heq⟩
  · rw [heq]
    exact .same conn
  · rw [heq]
    rcases handshake_cases conn r.params with ⟨e, heq⟩ | ⟨hincomplete, ⟨v, heq⟩ | ⟨fault, heq⟩⟩
    · rw [heq]
      exact .same conn
    · obtain ⟨complete, rejected⟩ := conn
      cases hrejected
      cases hincomplete
      rw [heq]
      exact .completed
    · obtain ⟨complete, rejected⟩ := conn
      cases hrejected
      cases hincomplete
      rw [heq]
      exact .refused
  · rw [heq]
    exact .same conn

/-- Neither does a line. -/
theorem handleLine_advances (s : Server π) (conn : Connection) (line : String) :
    conn.Advances (s.handleLine conn line).2.2 := by
  rcases s.handleLine_cases conn line with ⟨id, e, -, heq⟩ | ⟨r, -, heq⟩
  · rw [heq]
    exact .same conn
  · rw [heq]
    exact s.dispatch_advances conn r

/-- A line that is a request of this protocol is dispatched. -/
theorem handleLine_of_asks {line : String} {r : Request} (h : Asks line r) (s : Server π)
    (conn : Connection) :
    s.handleLine conn line = (respond r.id (s.dispatch conn r).1, (s.dispatch conn r).2) := by
  obtain ⟨v, hv, hr⟩ := Option.bind_eq_some_iff.1 h.read
  have hread : Request.read v = .ok r := by
    cases hread : Request.read v with
    | error fault => rw [hread] at hr; cases hr
    | ok r' => rw [hread] at hr; cases hr; rfl
  simp only [handleLine, hv, hread, handleRequest]
  rw [if_neg (not_not_intro h.version)]

/-- A refused connection is told so whatever it asks. -/
theorem dispatch_of_rejected {conn : Connection} (h : conn.rejected = true) (s : Server π)
    (r : Request) :
    s.dispatch conn r
      = (.error ⟨Code.unavailable, "connection failed the handshake", none⟩, s, conn) := by
  rw [dispatch, if_pos h]

/-- On any other a handshake is taken up. -/
theorem dispatch_handshake {conn : Connection} (h : conn.rejected = false) {r : Request}
    (hmethod : r.method = Method.handshake.name) (s : Server π) :
    s.dispatch conn r = ((handshake conn r.params).1, s, (handshake conn r.params).2) := by
  have hopen : ¬conn.rejected = true := Bool.eq_false_iff.1 h
  rw [dispatch, if_neg hopen, if_pos hmethod]

/-- A handshake that cannot be read has no effect. -/
theorem dispatch_malformed {r : Request} (h : r.Malformed) (s : Server π) (conn : Connection) :
    (s.dispatch conn r).2 = (s, conn) := by
  obtain ⟨hmethod, fault, hfault⟩ := h
  cases hrejected : conn.rejected with
  | true => rw [dispatch_of_rejected hrejected]
  | false =>
      rw [dispatch_handshake hrejected hmethod]
      by_cases hcomplete : conn.handshakeComplete = true
      · rw [handshake_of_complete hcomplete]
      · rw [handshake, if_neg hcomplete, parseParams, hfault]

/-- A handshake that is agreed on completes a connection that just opened. -/
theorem dispatch_agreed {r : Request} {result : HandshakeResult} (h : r.Agrees result)
    (s : Server π) :
    s.dispatch .new r = (.ok result.toJson.canonical, s, .established) := by
  obtain ⟨hmethod, p, hread, hagreed⟩ := h
  have hincomplete : ¬Connection.new.handshakeComplete = true := Bool.false_ne_true
  rw [dispatch_handshake rfl hmethod, handshake, if_neg hincomplete, parseParams_ok hread]
  simp only [hagreed]
  rfl

/-- One that is not agreed on has it refused. -/
theorem dispatch_refused {r : Request} (hmethod : r.method = Method.handshake.name)
    {p : HandshakeParams} {fault : HandshakeFault} (hread : HandshakeParams.read r.params = .ok p)
    (hfault : negotiate p = .error fault) (s : Server π) :
    s.dispatch .new r = (.error fault.toRpc, s, .refused) := by
  have hincomplete : ¬Connection.new.handshakeComplete = true := Bool.false_ne_true
  rw [dispatch_handshake rfl hmethod, handshake, if_neg hincomplete, parseParams_ok hread]
  simp only [hfault]
  rfl

/-- A repeated handshake is turned down without effect. -/
theorem dispatch_repeated {r : Request} (hmethod : r.method = Method.handshake.name)
    (s : Server π) :
    s.dispatch .established r
      = (.error ⟨Code.invalidRequest, Method.handshake.name ++ " already completed", none⟩, s,
          .established) := by
  have hcomplete : Connection.established.handshakeComplete = true := rfl
  rw [dispatch_handshake rfl hmethod, handshake, if_pos hcomplete]

end Server

-- ================================================================= runs

namespace Hub

variable {ι π : Type} [DecidableEq ι] [Provider π]

/-- A line that leaves the server and its own connection as they were leaves everything so. -/
theorem line_of_unchanged {hub : Hub ι π} {l : ι × String} {response : Response}
    (h : hub.server.handleLine (hub.connections l.1) l.2
      = (response, hub.server, hub.connections l.1)) :
    hub.line l = (response, hub) := by
  obtain ⟨server, connections⟩ := hub
  dsimp only at h
  simp only [Hub.line, h, Prod.mk.injEq, mk.injEq, true_and]
  funext i
  split
  · next heq => rw [heq]
  · rfl

/-- So does a request. -/
theorem line_of_dispatch {line : String} {r : Request} (h : Asks line r) {hub : Hub ι π} {i : ι}
    {result : Except Error Json}
    (hdispatch : hub.server.dispatch (hub.connections i) r
      = (result, hub.server, hub.connections i)) :
    hub.line (i, line) = (Server.respond r.id result, hub) := by
  refine line_of_unchanged ?_
  rw [Server.handleLine_of_asks h, hdispatch]

/-- Whatever lines come in, over this connection and others, take it no other way. -/
theorem run_advances (lines : List (ι × String)) (i : ι) : ∀ hub : Hub ι π,
    (hub.connections i).Advances ((run lines hub).2.connections i) := by
  induction lines with
  | nil => exact fun hub => .same _
  | cons l lines ih =>
      intro hub
      refine Connection.Advances.trans ?_ (ih (hub.line l).2)
      by_cases hl : i = l.1
      · subst hl
        rw [connections_line_self]
        exact Server.handleLine_advances ..
      · rw [connections_line_of_ne hl]
        exact .same _

/-- Whatever lines came in before: no connection is both past its handshake and refused, and it
stays what it is of the two. A handshake that cannot be read has no effect at all, so that one
which is agreed on completes the connection as long as it is neither; a repeated handshake is
turned down without effect; and on a refused connection every request is, with the code of a
provider that is unavailable. -/
theorem run_connection (server : Server (Transcript π)) (before : List (ι × String)) (i : ι) :
    let hub : Hub ι (Transcript π) := (run before (opened server)).2
    let conn := hub.connections i
    ¬(conn.handshakeComplete = true ∧ conn.rejected = true)
      ∧ (∀ more, let later := (run more hub).2.connections i
          (conn.handshakeComplete = true → later.handshakeComplete = true)
            ∧ (conn.rejected = true → later.rejected = true))
      ∧ ∀ line r, Asks line r →
        (r.Malformed → (hub.line (i, line)).2 = hub)
          ∧ (∀ result, r.Agrees result →
              conn.handshakeComplete = false → conn.rejected = false →
                (hub.line (i, line)).1 = Server.respond r.id (.ok result.toJson.canonical)
                  ∧ (hub.line (i, line)).2.connections i = .established)
          ∧ (r.method = Method.handshake.name → conn.handshakeComplete = true →
              hub.line (i, line) = (Server.respond r.id (.error ⟨Code.invalidRequest,
                Method.handshake.name ++ " already completed", none⟩), hub))
          ∧ (conn.rejected = true →
              hub.line (i, line) = (Server.respond r.id (.error ⟨Code.unavailable,
                "connection failed the handshake", none⟩), hub)) := by
  intro hub conn
  have hreached : Connection.new.Advances conn := run_advances before i (opened server)
  refine ⟨hreached.not_both, fun more => ?_, fun line r hasks => ⟨?_, ?_, ?_, ?_⟩⟩
  · have hlater := run_advances more i hub
    exact ⟨hlater.complete, hlater.rejected⟩
  · intro hmalformed
    have hsame := hub.server.dispatch_malformed hmalformed conn
    rw [line_of_dispatch hasks (Prod.ext rfl hsame)]
  · intro result hagrees hincomplete hopen
    have hnew : conn = .new := hreached.eq_new hincomplete hopen
    have hdispatch : hub.server.dispatch conn r
        = (.ok result.toJson.canonical, hub.server, .established) := by
      rw [hnew]
      exact Server.dispatch_agreed hagrees _
    have hline : hub.server.handleLine conn line
        = (Server.respond r.id (.ok result.toJson.canonical), hub.server, .established) := by
      rw [Server.handleLine_of_asks hasks, hdispatch]
    refine ⟨congrArg Prod.fst hline, ?_⟩
    rw [connections_line_self]
    exact congrArg (fun x => x.2.2) hline
  · intro hmethod hcomplete
    have hestablished : conn = .established := hreached.eq_established hcomplete
    have hdispatch := hub.server.dispatch_repeated hmethod
    rw [← hestablished] at hdispatch
    exact line_of_dispatch hasks hdispatch
  · intro hrejected
    exact line_of_dispatch hasks (Server.dispatch_of_rejected hrejected _ r)

/-- A handshake that says nothing. -/
def emptyHandshake : Request := ⟨version, .null, Method.handshake.name, .null⟩

/-- A runner's handshake. -/
def runnerHandshake : Request := handshakeRequest .null .current

/-- A handshake of another version. -/
def otherHandshake : Request := handshakeRequest .null ⟨1, cookieKey, cookieValue⟩

theorem asks_emptyHandshake : Asks emptyHandshake.text emptyHandshake := by
  have hasks := asks_text (r := emptyHandshake) trivial (by decide) rfl
  rwa [Request.received, emptyHandshake, canonical_null] at hasks

theorem malformed_emptyHandshake : emptyHandshake.Malformed := ⟨rfl, _, rfl⟩

theorem asks_runnerHandshake : Asks runnerHandshake.text runnerHandshake :=
  asks_handshakeRequest _ _

theorem agrees_runnerHandshake : runnerHandshake.Agrees ⟨protocolVersion⟩ :=
  agrees_handshakeRequest _ rfl

theorem run_connection_demo :
    let opening : Hub Nat (Transcript Demo) := opened (.new ⟨.new false, []⟩)
    let turned := (run [(0, otherHandshake.text)] opening).2
    (opening.line (0, emptyHandshake.text)).2 = opening
      ∧ (opening.line (0, runnerHandshake.text)).2.connections 0 = .established
      ∧ turned.line (0, runnerHandshake.text) = (Server.respond .null (.error
          ⟨Code.unavailable, "connection failed the handshake", none⟩), turned) := by
  intro opening turned
  obtain ⟨-, -, hopening⟩ := run_connection (π := Demo) (.new ⟨.new false, []⟩) [] (0 : Nat)
  -- what a line asks is all that matters of it
  have hempty : ∀ {line}, Asks line emptyHandshake → (opening.line (0, line)).2 = opening :=
    fun h => (hopening _ _ h).1 malformed_emptyHandshake
  have hrunner : ∀ {line}, Asks line runnerHandshake →
      (opening.line (0, line)).2.connections 0 = .established :=
    fun h => ((hopening _ _ h).2.1 _ agrees_runnerHandshake rfl rfl).2
  have hother : ∀ {line after}, Asks line otherHandshake → Asks after runnerHandshake →
      let turned := (run [(0, line)] opening).2
      turned.line (0, after) = (Server.respond .null (.error
        ⟨Code.unavailable, "connection failed the handshake", none⟩), turned) := by
    intro line after h hafter turned
    have hfault : negotiate ⟨1, cookieKey, cookieValue⟩
        = .error (.versionMismatch 1 protocolVersion) := rfl
    have hline := Server.handleLine_of_asks h opening.server .new
    rw [Server.dispatch_refused (r := otherHandshake) rfl (read_handshakeRequest _ _) hfault]
      at hline
    have hrefused : turned.connections 0 = .refused := congrArg (fun x => x.2.2) hline
    obtain ⟨-, -, hturned⟩ := run_connection (π := Demo) (.new ⟨.new false, []⟩)
      [(0, line)] (0 : Nat)
    exact (hturned _ _ hafter).2.2.2 (congrArg Connection.rejected hrefused)
  exact ⟨hempty asks_emptyHandshake, hrunner asks_runnerHandshake,
    hother (asks_handshakeRequest _ _) asks_runnerHandshake⟩

end Hub

end ProviderLink.Rpc
