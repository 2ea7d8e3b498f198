/-
Connections that complete their handshake, and those that never do. The
handshake is a gate in front of everything a server shares: over a
connection that is not past it a line may say what it likes and leaves
the server as it was (`handleLine_of_incomplete`). Past it a connection
does not change any more (`handleLine_of_complete`), so that a connection
which is not past it at the end of a run was at no time past it.

So whatever came in over the latter connections might as well not have
come. A run and the same run without those lines are taken through their
lines side by side; they agree on the server and on the connections that
remain (`Agree`), and a line that is left out keeps them in agreement.
-/
import ProviderLink.Proofs.Rpc.Hub

namespace ProviderLink.Rpc

-- =============================================================== lines

namespace Server

/-- A handshake that is complete is not made again. -/
theorem handshake_of_complete {conn : Connection} (h : conn.handshakeComplete = true)
    (params : Json) : (handshake conn params).2 = conn := by
  rw [handshake, if_pos h]

variable {π : Type} [Provider π]

/-- A line is refused before it is a request of this protocol, or it is a request and
dispatched. -/
theorem handleLine_cases (s : Server π) (conn : Connection) (line : String) :
    (∃ id e, (e.code = Code.parseError ∨ e.code = Code.invalidRequest)
        ∧ s.handleLine conn line = (respond id (.error e), s, conn))
      ∨ ∃ r : Request, r.jsonrpc = version
        ∧ s.handleLine conn line = (respond r.id (s.dispatch conn r).1, (s.dispatch conn r).2) := by
  unfold handleLine
  split
  · exact Or.inl ⟨_, _, Or.inl rfl, rfl⟩
  · split
    · exact Or.inl ⟨_, _, Or.inr rfl, rfl⟩
    · next r _ =>
      unfold handleRequest
      split
      · exact Or.inl ⟨_, _, Or.inr rfl, rfl⟩
      · next hversion => exact Or.inr ⟨r, Decidable.not_not.1 hversion, rfl⟩

/-- Before the handshake a request is a handshake or refused. -/
theorem dispatch_of_incomplete {conn : Connection} (h : conn.handshakeComplete = false)
    (s : Server π) (r : Request) : (s.dispatch conn r).2.1 = s := by
  rcases s.dispatch_cases conn r with ⟨e, heq⟩ | ⟨-, -, heq⟩ | ⟨hcomplete, -⟩
  · rw [heq]
  · rw [heq]
  · rw [h] at hcomplete
    cases hcomplete

/-- After the handshake no request changes the connection. -/
theorem dispatch_of_complete {conn : Connection} (h : conn.handshakeComplete = true)
    (s : Server π) (r : Request) : (s.dispatch conn r).2.2 = conn := by
  rcases s.dispatch_cases conn r with ⟨e, heq⟩ | ⟨-, -, heq⟩ | ⟨-, c, -, heq⟩
  · rw [heq]
  · rw [heq]
    exact handshake_of_complete h r.params
  · rw [heq]

/-- Before its handshake a connection has no effect on the server. -/
theorem handleLine_of_incomplete {conn : Connection} (h : conn.handshakeComplete = false)
    (s : Server π) (line : String) : (s.handleLine conn line).2.1 = s := by
  rcases s.handleLine_cases conn line with ⟨id, e, -, heq⟩ | ⟨r, -, heq⟩
  · rw [heq]
  · rw [heq]
    exact dispatch_of_incomplete h s r

/-- After its handshake a connection stays as it is. -/
theorem handleLine_of_complete {conn : Connection} (h : conn.handshakeComplete = true)
    (s : Server π) (line : String) : (s.handleLine conn line).2.2 = conn := by
  rcases s.handleLine_cases conn line with ⟨id, e, -, heq⟩ | ⟨r, -, heq⟩
  · rw [heq]
  · rw [heq]
    exact dispatch_of_complete h s r

end Server

-- ================================================================ runs

namespace Hub

variable {ι π : Type}

/-- What of a run concerns some of the connections. -/
def among {α : Type} (kept : ι → Bool) (entries : List (ι × α)) : List (ι × α) :=
  entries.filter fun e => kept e.1

theorem among_cons_of_pos {α : Type} {kept : ι → Bool} {i : ι} (h : kept i = true) (x : α)
    (rest : List (ι × α)) : among kept ((i, x) :: rest) = (i, x) :: among kept rest :=
  List.filter_cons_of_pos h

theorem among_cons_of_neg {α : Type} {kept : ι → Bool} {i : ι} (h : kept i = false) (x : α)
    (rest : List (ι × α)) : among kept ((i, x) :: rest) = among kept rest :=
  List.filter_cons_of_neg (Bool.eq_false_iff.1 h)

variable [DecidableEq ι] [Provider π]

/-- A server as it is, to which connections are about to be opened. -/
def opened (server : Server π) : Hub ι π := ⟨server, fun _ => .new⟩

/-- Each response of a run with the connection that it went to. -/
def traffic (lines : List (ι × String)) (h : Hub ι π) : List (ι × Response) :=
  (lines.map Prod.fst).zip (run lines h).1

/-- Whether a connection is past its handshake at the end of a run. -/
def completes (lines : List (ι × String)) (h : Hub ι π) (i : ι) : Bool :=
  ((run lines h).2.connections i).handshakeComplete

theorem run_append (before rest : List (ι × String)) : ∀ h : Hub ι π,
    (run (before ++ rest) h).2 = (run rest (run before h).2).2 := by
  induction before with
  | nil => exact fun _ => rfl
  | cons l before ih => exact fun h => ih (h.line l).2

theorem traffic_cons (l : ι × String) (rest : List (ι × String)) (h : Hub ι π) :
    traffic (l :: rest) h = (l.1, (h.line l).1) :: traffic rest (h.line l).2 := rfl

/-- A line changes no connection but its own. -/
theorem connections_line_of_ne {i : ι} {l : ι × String} (hne : i ≠ l.1) (h : Hub ι π) :
    (h.line l).2.connections i = h.connections i := if_neg hne

theorem connections_line_self (l : ι × String) (h : Hub ι π) :
    (h.line l).2.connections l.1
      = (h.server.handleLine (h.connections l.1) l.2).2.2 := if_pos rfl

/-- A connection past its handshake is past it for good. -/
theorem complete_line {i : ι} {h : Hub ι π} (hi : (h.connections i).handshakeComplete = true)
    (l : ι × String) : ((h.line l).2.connections i).handshakeComplete = true := by
  by_cases hl : i = l.1
  · subst hl
    rw [connections_line_self, Server.handleLine_of_complete hi]
    exact hi
  · rw [connections_line_of_ne hl]
    exact hi

/-- A connection past its handshake at some moment of a run is past it at the end. -/
theorem completes_of_complete {i : ι} (lines : List (ι × String)) : ∀ {h : Hub ι π},
    (h.connections i).handshakeComplete = true → completes lines h i = true := by
  induction lines with
  | nil => exact fun hi => hi
  | cons l lines ih => exact fun hi => ih (complete_line hi l)

/-- So the connections not past their handshake at the end of a run never were. -/
theorem not_completes_of_prefix {i : ι} {before lines : List (ι × String)} {h : Hub ι π}
    (hbefore : before <+: lines) (hi : completes lines h i = false) :
    completes before h i = false := by
  obtain ⟨rest, rfl⟩ := hbefore
  refine Bool.eq_false_iff.2 fun hcomplete => Bool.eq_false_iff.1 hi ?_
  rw [completes, run_append]
  exact completes_of_complete rest hcomplete

/-- Two hubs that are the same to some of the connections. -/
structure Agree (kept : ι → Bool) (h h' : Hub ι π) : Prop where
  server : h.server = h'.server
  connections : ∀ i, kept i = true → h.connections i = h'.connections i

variable {kept : ι → Bool} {h h' : Hub ι π}

/-- A line over a connection that is kept is answered alike, and the agreement lasts. -/
theorem Agree.line (hagree : Agree kept h h') {l : ι × String} (hl : kept l.1 = true) :
    (h.line l).1 = (h'.line l).1 ∧ Agree kept (h.line l).2 (h'.line l).2 := by
  have hconn := hagree.connections l.1 hl
  refine ⟨?_, ?_, fun i hi => ?_⟩
  · rw [Hub.line, Hub.line, hagree.server, hconn]
  · rw [server_line, server_line, hagree.server, hconn]
  · by_cases heq : i = l.1
    · subst heq
      rw [connections_line_self, connections_line_self, hagree.server, hconn]
    · rw [connections_line_of_ne heq, connections_line_of_ne heq]
      exact hagree.connections i hi

/-- A line over another connection may be left out, as long as that is not past its
handshake. -/
theorem Agree.leave_out (hagree : Agree kept h h') {l : ι × String} (hl : kept l.1 = false)
    (hincomplete : (h.connections l.1).handshakeComplete = false) :
    Agree kept (h.line l).2 h' := by
  refine ⟨?_, fun i hi => ?_⟩
  · rw [server_line, Server.handleLine_of_incomplete hincomplete]
    exact hagree.server
  · have hne : i ≠ l.1 := by
      rintro rfl
      rw [hl] at hi
      cases hi
    rw [connections_line_of_ne hne]
    exact hagree.connections i hi

/-- Lines over connections that never complete their handshake may be left out of a run. -/
theorem Agree.run (lines : List (ι × String)) : ∀ {h h' : Hub ι π}, Agree kept h h' →
    (∀ i, completes lines h i = true → kept i = true) →
      traffic (among kept lines) h' = among kept (traffic lines h)
        ∧ Agree kept (Hub.run lines h).2 (Hub.run (among kept lines) h').2 := by
  induction lines with
  | nil => exact fun hagree _ => ⟨rfl, hagree⟩
  | cons l lines ih =>
      intro h h' hagree hkept
      rw [traffic_cons]
      cases hl : kept l.1 with
      | true =>
          obtain ⟨hresponse, hnext⟩ := hagree.line hl
          obtain ⟨htraffic, hend⟩ := ih hnext hkept
          rw [among_cons_of_pos hl, among_cons_of_pos hl, traffic_cons, htraffic, hresponse]
          exact ⟨rfl, hend⟩
      | false =>
          have hincomplete : (h.connections l.1).handshakeComplete = false := by
            -- had it been past its handshake it would be at the end, and be kept
            refine Bool.eq_false_iff.2 fun hcomplete => Bool.eq_false_iff.1 hl ?_
            exact hkept l.1 (completes_of_complete (l :: lines) hcomplete)
          rw [among_cons_of_neg hl, among_cons_of_neg hl]
          exact ih (hagree.leave_out hl hincomplete) hkept

/-- Whatever comes in over connections that never complete their handshake might as well not
come. Without it the other connections get the same responses in the same order and end up the
same, and so does the server: its life, its provider and all that this received and answered. -/
theorem run_established (server : Server (Transcript π)) (lines : List (ι × String)) :
    let full : Hub ι (Transcript π) := opened server
    let kept := completes lines full
    let rest := among kept lines
    (∀ i, kept i = false → ∀ before, before <+: lines → completes before full i = false)
      ∧ traffic rest full = among kept (traffic lines full)
      ∧ (Hub.run rest full).2.server = (Hub.run lines full).2.server
      ∧ ∀ i, kept i = true →
          (Hub.run rest full).2.connections i = (Hub.run lines full).2.connections i := by
  intro full kept rest
  have hsame : Agree kept full full := ⟨rfl, fun _ _ => rfl⟩
  obtain ⟨htraffic, hagree⟩ := Agree.run lines hsame fun _ hi => hi
  refine ⟨fun i hi before hbefore => ?_, htraffic, hagree.server.symm, fun i hi => ?_⟩
  · exact not_completes_of_prefix hbefore hi
  · exact (hagree.connections i hi).symm

end Hub

end ProviderLink.Rpc
