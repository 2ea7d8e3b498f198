/-
Exchanges over bytes that arrive while they wait. The reader runs beside
the callers: some of its bytes are there before an exchange begins, and
one that finds nothing to decide it waits for more of them
(`ArrivingStream`). Over a stream with a timeout, time may run out on it
while it waits. Then it fails, and what has not come yet is left to later
ones.

A reader puts what it reports behind what it has queued, so arrivals and
takings commute (`foldl_arrive_behind`). What an exchange takes is
therefore said of all events that are still to be taken, those to come
included (`unread`): responses with other ids and one event that decides
it, unless time runs out before that comes (`Concludes`,
`exchange_waited`).

How the bytes are cut and when they come makes a difference only by the
exchanges on which time runs out. Any other gives what it gives over a
stream whose bytes are all there from the start (`exchange_ahead`).
-/
import ProviderLink.Proofs.Rpc.Pieces

namespace ProviderLink.Rpc

open Text

-- ============================================================= deciding

/-- The events of some lines. -/
def lineEvents (lines : List String) : List ReaderEvent := lines.map .line

/-- The line is a response with another id. -/
def Foreign (id : RequestId) (text : String) : Prop :=
  ∃ r, decodeResponse text = .ok r ∧ r.id ≠ id

theorem transport_of_decodeResponse {text : String} {e : ProviderError}
    (h : decodeResponse text = .error e) : ∃ detail, e = .transport detail := by
  unfold decodeResponse at h
  split at h
  · cases h
  · cases h
    exact ⟨_, rfl⟩

/-- How an event decides an exchange with this id: the response is its own, or it comes to
nothing, and then for a transport failure. -/
inductive Decides (id : RequestId) : ReaderEvent → Outcome Response → Prop
  | own {text : String} {r : Response} (h : decodeResponse text = .ok r) (hid : r.id = id) :
    Decides id (.line text) (.ok r)
  | undecodable {text detail : String} (h : decodeResponse text = .error (.transport detail)) :
    Decides id (.line text) (.error (.transport detail))
  | failure (message : String) :
    Decides id (.failure message) (.error (.transport ("failed to read response: " ++ message)))
  | closed : Decides id .closed (.error closedFailure)

theorem Decides.transport {id : RequestId} {e : ReaderEvent} {error : ProviderError}
    (h : Decides id e (.error error)) : ∃ detail, error = .transport detail := by
  cases h with
  | undecodable | failure | closed => exact ⟨_, rfl⟩

/-- An exchange stops at an event that decides it. -/
theorem Decides.awaitResponse {id : RequestId} {e : ReaderEvent} {outcome : Outcome Response}
    (h : Decides id e outcome) (ifEmpty : ProviderError) (rest : List ReaderEvent) :
    awaitResponse id ifEmpty (e :: rest) = (outcome, rest) := by
  cases h with
  | own hdecode hid =>
      rw [Rpc.awaitResponse, hdecode]
      exact if_pos hid
  | undecodable hdecode => rw [Rpc.awaitResponse, hdecode]
  | failure | closed => rfl

/-- It goes past responses with other ids. -/
theorem awaitResponse_skip {id : RequestId} {skipped : List String}
    (h : ∀ other ∈ skipped, Foreign id other) (ifEmpty : ProviderError)
    (queue : List ReaderEvent) :
    awaitResponse id ifEmpty (lineEvents skipped ++ queue) = awaitResponse id ifEmpty queue := by
  induction skipped with
  | nil => rfl
  | cons text skipped ih =>
      obtain ⟨⟨r, hdecode, hid⟩, hskipped⟩ := List.forall_mem_cons.1 h
      rw [lineEvents, List.map_cons, List.cons_append, awaitResponse, hdecode]
      exact (if_neg hid).trans (ih hskipped)

/-- An event that is no response with another id decides. -/
theorem foreign_or_decides (id : RequestId) (e : ReaderEvent) :
    (∃ text, e = .line text ∧ Foreign id text) ∨ ∃ outcome, Decides id e outcome := by
  cases e with
  | failure message => exact Or.inr ⟨_, .failure message⟩
  | closed => exact Or.inr ⟨_, .closed⟩
  | line text =>
      cases hdecode : decodeResponse text with
      | error error =>
          obtain ⟨detail, rfl⟩ := transport_of_decodeResponse hdecode
          exact Or.inr ⟨_, .undecodable hdecode⟩
      | ok r =>
          by_cases hid : r.id = id
          · exact Or.inr ⟨_, .own hdecode hid⟩
          · exact Or.inl ⟨text, rfl, r, hdecode, hid⟩

/-- So some events are all skipped, or there is a first one among them that decides. -/
theorem skipped_or_decided (id : RequestId) (queue : List ReaderEvent) :
    (∃ skipped, queue = lineEvents skipped ∧ ∀ other ∈ skipped, Foreign id other)
      ∨ ∃ skipped e rest outcome, queue = lineEvents skipped ++ e :: rest
        ∧ (∀ other ∈ skipped, Foreign id other) ∧ Decides id e outcome := by
  have hnone : ∀ other ∈ ([] : List String), Foreign id other := List.forall_mem_nil _
  induction queue with
  | nil => exact Or.inl ⟨[], rfl, hnone⟩
  | cons e queue ih =>
      rcases foreign_or_decides id e with ⟨text, rfl, hforeign⟩ | ⟨outcome, hdecides⟩
      · rcases ih with ⟨skipped, rfl, hskipped⟩ |
          ⟨skipped, e, rest, outcome, rfl, hskipped, hdecides⟩
        · exact Or.inl ⟨text :: skipped, rfl, List.forall_mem_cons.2 ⟨hforeign, hskipped⟩⟩
        · exact Or.inr ⟨text :: skipped, e, rest, outcome, rfl,
            List.forall_mem_cons.2 ⟨hforeign, hskipped⟩, hdecides⟩
      · exact Or.inr ⟨[], e, queue, outcome, rfl, hnone, hdecides⟩

/-- An exchange with this id ends with this event. -/
def decisive (id : RequestId) : ReaderEvent → Bool
  | .line text =>
    match decodeResponse text with
    | .ok r => r.id = id
    | .error _ => true
  | .failure _ => true
  | .closed => true

theorem Decides.decisive {id : RequestId} {e : ReaderEvent} {outcome : Outcome Response}
    (h : Decides id e outcome) : decisive id e = true := by
  cases h with
  | own hdecode hid =>
      rw [Rpc.decisive, hdecode]
      exact decide_eq_true hid
  | undecodable hdecode => rw [Rpc.decisive, hdecode]
  | failure | closed => rfl

theorem Foreign.not_decisive {id : RequestId} {text : String} (h : Foreign id text) :
    decisive id (.line text) = false := by
  obtain ⟨r, hdecode, hid⟩ := h
  rw [decisive, hdecode]
  exact decide_eq_false hid

/-- Of events that do not all go past an exchange, there is a first that decides it. -/
theorem decided_of_decisive {id : RequestId} {queue : List ReaderEvent}
    (h : queue.any (decisive id)) : ∃ skipped e rest outcome,
      queue = lineEvents skipped ++ e :: rest ∧ (∀ other ∈ skipped, Foreign id other) ∧
        Decides id e outcome := by
  refine (skipped_or_decided id queue).resolve_left ?_
  rintro ⟨skipped, rfl, hskipped⟩
  obtain ⟨e, he, hdecisive⟩ := List.any_eq_true.1 h
  obtain ⟨text, htext, rfl⟩ := List.mem_map.1 he
  rw [(hskipped text htext).not_decisive] at hdecisive
  cases hdecisive

theorem skipped_of_not_decisive {id : RequestId} {queue : List ReaderEvent}
    (h : ¬queue.any (decisive id)) :
    ∃ skipped, queue = lineEvents skipped ∧ ∀ other ∈ skipped, Foreign id other := by
  refine (skipped_or_decided id queue).resolve_right ?_
  rintro ⟨skipped, e, rest, outcome, rfl, -, he⟩
  exact h (List.any_eq_true.2 ⟨e, by simp, he.decisive⟩)

-- ============================================================= readers

namespace Reader

theorem report_of_gone {r : Reader} (h : r.gone) (e : ReaderEvent) : r.report e = r :=
  if_pos h

/-- A failure or the end is the last that a reader reports. -/
theorem report_last {r : Reader} (h : r.gone = false) {e : ReaderEvent}
    (he : ∀ text, e ≠ .line text) :
    r.report e = { r with queue := r.queue ++ [e], gone := true } := by
  unfold report
  rw [h]
  cases e with
  | line text => exact absurd rfl (he text)
  | failure message => rfl
  | closed => rfl

/-- The reader with more in front of its queue. -/
def behind (events : List ReaderEvent) (r : Reader) : Reader :=
  { r with queue := events ++ r.queue }

theorem report_behind (events : List ReaderEvent) (r : Reader) (e : ReaderEvent) :
    (r.behind events).report e = (r.report e).behind events := by
  have hkept : (r.behind events).gone = r.gone := rfl
  cases hgone : r.gone with
  | true => rw [report_of_gone hgone, report_of_gone (hkept.trans hgone)]
  | false =>
      by_cases he : ∀ text, e ≠ .line text
      · rw [report_last hgone he, report_last (hkept.trans hgone) he]
        simp only [behind, List.append_assoc]
      · obtain ⟨text, rfl⟩ : ∃ text, e = .line text := by simpa using he
        cases hblank : allBlank text <;> simp [report, behind, hgone, hblank]

theorem line_behind (events : List ReaderEvent) (r : Reader) (text : Option String) :
    (r.behind events).line text = (r.line text).behind events := by
  cases text with
  | none => exact report_behind events r (.failure notText)
  | some text => exact report_behind events r (.line text)

theorem foldl_line_behind (events : List ReaderEvent) (texts : List (Option String)) :
    ∀ r : Reader, texts.foldl line (r.behind events) = (texts.foldl line r).behind events := by
  induction texts with
  | nil => exact fun _ => rfl
  | cons text texts ih =>
      intro r
      rw [List.foldl_cons, line_behind, ih, List.foldl_cons]

theorem feed_behind (events : List ReaderEvent) (r : Reader) (bytes : List UInt8) :
    (r.behind events).feed bytes = (r.feed bytes).behind events := by
  rw [feed_eq, feed_eq, foldl_line_behind]
  rfl

theorem finish_behind (events : List ReaderEvent) (r : Reader) (ends : StreamEnd) :
    (r.behind events).finish ends = (r.finish ends).behind events := by
  cases ends with
  | silence => rfl
  | failure message => exact report_behind events r (.failure message)
  | eof =>
      have hpending : (r.behind events).pending = r.pending := rfl
      rw [finish, finish, hpending]
      split
      · exact report_behind events r _
      · rw [line_behind]
        exact report_behind ..

end Reader

-- ============================================================= arrivals

/-- What arrives at a time: some bytes, or that they end. -/
inductive Arrival
  | piece (bytes : List UInt8)
  | ending (ends : StreamEnd)

namespace Reader

/-- The reader takes in what arrives. -/
def arrive (r : Reader) : Arrival → Reader
  | .piece bytes => r.feed bytes
  | .ending ends => r.finish ends

theorem foldl_arrive_behind (events : List ReaderEvent) (coming : List Arrival) :
    ∀ r : Reader, coming.foldl arrive (r.behind events)
      = (coming.foldl arrive r).behind events := by
  induction coming with
  | nil => exact fun _ => rfl
  | cons arrival coming ih =>
      intro r
      have harrive : (r.behind events).arrive arrival = (r.arrive arrival).behind events := by
        cases arrival with
        | piece bytes => exact feed_behind ..
        | ending ends => exact finish_behind ..
      rw [List.foldl_cons, harrive, ih, List.foldl_cons]

/-- What arrives goes behind whatever is queued. -/
theorem foldl_arrive_queue (r : Reader) (queue : List ReaderEvent) (coming : List Arrival) :
    coming.foldl arrive { r with queue }
      = (coming.foldl arrive { r with queue := [] }).behind queue := by
  rw [← foldl_arrive_behind, behind, List.append_nil]

end Reader

/-- A stream whose bytes arrive little by little, some of them only while an exchange waits. -/
structure ArrivingStream where
  reader : Reader
  coming : List Arrival
  output : Output
  /-- How long an exchange waits for an event, in milliseconds, if there is a limit. -/
  timeout : Option Nat

/-- A request, and what arrives around its exchange. -/
structure Attempt where
  request : Request
  /-- So much has arrived when the exchange begins. -/
  early : Nat
  /-- After so much more time runs out on it, if it does. -/
  patience : Option Nat

namespace Attempt

/-- After how much more time runs out on the exchange, and its failure then. It never does over a
stream without a timeout. -/
def limit (a : Attempt) (timeout : Option Nat) : Option (Nat × ProviderError) :=
  match a.patience, timeout with
  | some arrivals, some ms => some (arrivals, timedOut a.request.method ms)
  | _, _ => none

/-- The failure of the exchange if time runs out on it. -/
def expiry (a : Attempt) (timeout : Option Nat) : Option ProviderError :=
  (a.limit timeout).map Prod.snd

end Attempt

namespace ArrivingStream

/-- A stream of which nothing has arrived. -/
def new (pieces : List (List UInt8)) (ends : StreamEnd) (timeout : Option Nat)
    (room : Option Nat) : ArrivingStream :=
  ⟨.new, pieces.map .piece ++ [.ending ends], ⟨[], room⟩, timeout⟩

/-- Some of what is to come arrives. -/
def arrive (arrivals : Nat) (t : ArrivingStream) : ArrivingStream :=
  { t with
    reader := (t.coming.take arrivals).foldl Reader.arrive t.reader
    coming := t.coming.drop arrivals }

/-- Waits for the event that decides an exchange while more arrives, or until time runs out.
Whatever was queued has been taken by then. Time may run out even after the last report of a
reader, which goes only a moment later. The answer is `none` where the exchange still waits when
nothing more comes. -/
def await (id : RequestId) (limit : Option (Nat × ProviderError)) (reader : Reader)
    (coming : List Arrival) : Option (Outcome Response) × Reader × List Arrival :=
  if reader.queue.any (decisive id) then
    let (answer, queue) := awaitResponse id closedFailure reader.queue
    (some answer, { reader with queue }, coming)
  else
    let reader := { reader with queue := [] }
    match limit with
    | some (0, expired) => (some (.error expired), reader, coming)
    | limit =>
      match coming with
      | [] => (if reader.gone then some (.error closedFailure) else none, reader, [])
      | arrival :: coming =>
        let left := limit.map fun (arrivals, expired) => (arrivals - 1, expired)
        await id left (reader.arrive arrival) coming

/-- Writes a request, after some has arrived, and waits for its response. -/
def exchange (a : Attempt) (t : ArrivingStream) : Option (Outcome Response) × ArrivingStream :=
  let t := t.arrive a.early
  let (fits, output) := t.output.writeLine a.request.text
  if !fits then (some (.error sendFailure), { t with output })
  else
    let (answer, reader, coming) := await a.request.id (a.limit t.timeout) t.reader t.coming
    (answer, { t with output, reader, coming })

/-- The reader once everything has arrived. -/
def arrived (t : ArrivingStream) : Reader := t.coming.foldl Reader.arrive t.reader

/-- The events that are still to be taken, those to come included. -/
def unread (t : ArrivingStream) : List ReaderEvent := t.arrived.queue

theorem arrived_new (pieces : List (List UInt8)) (ends : StreamEnd) (timeout : Option Nat)
    (room : Option Nat) : (new pieces ends timeout room).arrived
      = (Reader.new.feed pieces.flatten).finish ends := by
  rw [arrived, new, List.foldl_append, List.foldl_map,
    ← Reader.feed_pieces (r := Reader.new) List.not_mem_nil]
  rfl

/-- Nothing is taken by arriving. -/
theorem arrived_arrive (arrivals : Nat) (t : ArrivingStream) :
    (t.arrive arrivals).arrived = t.arrived := by
  rw [arrived, arrive, ← List.foldl_append, List.take_append_drop]
  rfl

end ArrivingStream

-- ============================================================== waiting

/-- How waiting ends, by the events that are still to be taken: responses with other ids are, and
then one event that decides, or time runs out and the others are left. -/
inductive Concludes (id : RequestId) (expiry : Option ProviderError) :
    List ReaderEvent → Outcome Response → List ReaderEvent → Prop
  | decided (skipped : List String) {e : ReaderEvent} (rest : List ReaderEvent)
    {outcome : Outcome Response} (hskipped : ∀ other ∈ skipped, Foreign id other)
    (he : Decides id e outcome) :
    Concludes id expiry (lineEvents skipped ++ e :: rest) outcome rest
  | expired (skipped : List String) (rest : List ReaderEvent) {error : ProviderError}
    (hskipped : ∀ other ∈ skipped, Foreign id other) (herror : expiry = some error) :
    Concludes id expiry (lineEvents skipped ++ rest) (.error error) rest

/-- It may go past more of them before. -/
theorem Concludes.skip {id : RequestId} {expiry : Option ProviderError} {skipped : List String}
    {queue rest : List ReaderEvent} {outcome : Outcome Response}
    (hskipped : ∀ other ∈ skipped, Foreign id other)
    (h : Concludes id expiry queue outcome rest) :
    Concludes id expiry (lineEvents skipped ++ queue) outcome rest := by
  cases h with
  | decided more rest hmore he =>
      rw [← List.append_assoc, lineEvents, lineEvents, ← List.map_append]
      exact .decided _ rest (List.forall_mem_append.2 ⟨hskipped, hmore⟩) he
  | expired more rest hmore herror =>
      rw [← List.append_assoc, lineEvents, lineEvents, ← List.map_append]
      exact .expired _ rest (List.forall_mem_append.2 ⟨hskipped, hmore⟩) herror

/-- What comes of waiting, by the events that are still to be taken: it ends, or all of them are
responses with other ids, and then the end has been taken already or never comes. -/
inductive Waited (id : RequestId) (expiry : Option ProviderError) (gone : Bool) :
    List ReaderEvent → Option (Outcome Response) → List ReaderEvent → Prop
  | concluded {queue rest : List ReaderEvent} {outcome : Outcome Response}
    (h : Concludes id expiry queue outcome rest) : Waited id expiry gone queue (some outcome) rest
  | passed (skipped : List String) (hskipped : ∀ other ∈ skipped, Foreign id other) :
    Waited id expiry gone (lineEvents skipped)
      (if gone then some (.error closedFailure) else none) []

/-- Where time does not run out, what comes of it depends on nothing but the events. -/
theorem Waited.awaitResponse {id : RequestId} {gone : Bool} {queue rest : List ReaderEvent}
    {outcome : Outcome Response} (h : Waited id none gone queue (some outcome) rest)
    (method : String) (timeout : Nat) :
    awaitResponse id (noEvent method timeout gone) queue = (outcome, rest) := by
  generalize hanswer : some outcome = answer at h
  cases h with
  | concluded h =>
      cases hanswer
      cases h with
      | decided skipped rest hskipped he =>
          rw [awaitResponse_skip hskipped, he.awaitResponse]
      | expired skipped rest hskipped herror => cases herror
  | passed skipped hskipped =>
      have hempty := awaitResponse_skip hskipped (noEvent method timeout gone) []
      rw [List.append_nil] at hempty
      rw [hempty]
      cases gone with
      | false => cases hanswer
      | true =>
          cases hanswer
          rfl

theorem Waited.skip {id : RequestId} {expiry : Option ProviderError} {gone : Bool}
    {skipped : List String} {queue rest : List ReaderEvent} {answer : Option (Outcome Response)}
    (hskipped : ∀ other ∈ skipped, Foreign id other)
    (h : Waited id expiry gone queue answer rest) :
    Waited id expiry gone (lineEvents skipped ++ queue) answer rest := by
  cases h with
  | concluded h => exact .concluded (h.skip hskipped)
  | passed more hmore =>
      rw [lineEvents, lineEvents, ← List.map_append]
      exact .passed _ (List.forall_mem_append.2 ⟨hskipped, hmore⟩)

namespace ArrivingStream

/-- Waiting comes to what `Waited` says of everything that is still to be taken. -/
theorem await_waited (id : RequestId) (limit : Option (Nat × ProviderError)) (reader : Reader)
    (coming : List Arrival) :
    let full := coming.foldl Reader.arrive reader
    let waited := await id limit reader coming
    let after := waited.2.2.foldl Reader.arrive waited.2.1
    after.gone = full.gone ∧
      Waited id (limit.map Prod.snd) full.gone full.queue waited.1 after.queue := by
  intro full waited after
  -- what is still to come goes behind the queue, and waiting only takes from the queue
  have hfull : full
      = (coming.foldl Reader.arrive { reader with queue := [] }).behind reader.queue :=
    Reader.foldl_arrive_queue reader reader.queue coming
  fun_induction await id limit reader coming with
  | case1 coming limit reader hdecisive answer queue hawait =>
      -- an event in the queue decides
      obtain ⟨skipped, e, rest, outcome, hqueue, hskipped, he⟩ := decided_of_decisive hdecisive
      rw [hqueue, awaitResponse_skip hskipped, he.awaitResponse] at hawait
      obtain ⟨rfl, rfl⟩ := Prod.mk.inj hawait
      have hafter : after = (coming.foldl Reader.arrive { reader with queue := [] }).behind rest :=
        Reader.foldl_arrive_queue reader rest coming
      rw [hfull, hafter, Reader.behind, Reader.behind, hqueue, List.append_assoc, List.cons_append]
      exact ⟨rfl, .concluded (.decided skipped _ hskipped he)⟩
  | case2 coming reader hdecisive used expired =>
      -- the queue is used up, and time runs out
      obtain ⟨skipped, hqueue, hskipped⟩ := skipped_of_not_decisive hdecisive
      rw [hfull, Reader.behind, hqueue]
      exact ⟨rfl, .concluded (.expired skipped _ hskipped rfl)⟩
  | case3 reader hdecisive used limit hlimit =>
      -- it is used up, and nothing more comes
      obtain ⟨skipped, hqueue, hskipped⟩ := skipped_of_not_decisive hdecisive
      refine ⟨rfl, ?_⟩
      rw [show full.queue = lineEvents skipped from hqueue]
      exact .passed skipped hskipped
  | case4 reader hdecisive used limit hlimit arrival coming left ih =>
      -- it is used up, and more arrives
      obtain ⟨skipped, hqueue, hskipped⟩ := skipped_of_not_decisive hdecisive
      have hexpiry : left.map Prod.snd = limit.map Prod.snd := by
        cases limit <;> rfl
      obtain ⟨hgone, hwaited⟩ := ih (Reader.foldl_arrive_queue ..)
      rw [hexpiry] at hwaited
      rw [hfull, Reader.behind, hqueue]
      exact ⟨hgone, hwaited.skip hskipped⟩

-- ============================================================ exchange

theorem exchange_of_unwritten {t : ArrivingStream} {a : Attempt}
    (h : (t.output.writeLine a.request.text).1 = false) :
    t.exchange a = (some (.error sendFailure),
      { t.arrive a.early with output := (t.output.writeLine a.request.text).2 }) := by
  have hwrite : ((t.arrive a.early).output.writeLine a.request.text).1 = false := h
  rw [exchange]
  simp only [hwrite]
  rfl

theorem exchange_of_written {t : ArrivingStream} {a : Attempt}
    (h : (t.output.writeLine a.request.text).1 = true) :
    let waited := await a.request.id (a.limit t.timeout) (t.arrive a.early).reader
      (t.arrive a.early).coming
    t.exchange a = (waited.1, ⟨waited.2.1, waited.2.2,
      (t.output.writeLine a.request.text).2, t.timeout⟩) := by
  have hwrite : ((t.arrive a.early).output.writeLine a.request.text).1 = true := h
  rw [exchange]
  simp only [hwrite]
  rfl

theorem output_exchange (a : Attempt) (t : ArrivingStream) :
    (t.exchange a).2.output = (t.output.writeLine a.request.text).2 := by
  cases h : (t.output.writeLine a.request.text).1 with
  | false => rw [exchange_of_unwritten h]
  | true => rw [exchange_of_written h]

theorem timeout_exchange (a : Attempt) (t : ArrivingStream) :
    (t.exchange a).2.timeout = t.timeout := by
  cases h : (t.output.writeLine a.request.text).1 with
  | false =>
      rw [exchange_of_unwritten h]
      rfl
  | true => rw [exchange_of_written h]

/-- An exchange whose request is not written takes nothing. -/
theorem arrived_of_unwritten {t : ArrivingStream} {a : Attempt}
    (h : (t.output.writeLine a.request.text).1 = false) :
    (t.exchange a).2.arrived = t.arrived := by
  rw [exchange_of_unwritten h]
  exact arrived_arrive ..

/-- One whose request is written waits, whatever has arrived before. -/
theorem exchange_waited {t : ArrivingStream} {a : Attempt}
    (h : (t.output.writeLine a.request.text).1 = true) :
    (t.exchange a).2.arrived.gone = t.arrived.gone ∧
      Waited a.request.id (a.expiry t.timeout) t.arrived.gone t.unread (t.exchange a).1
        (t.exchange a).2.unread := by
  rw [exchange_of_written h, unread, ← arrived_arrive a.early t]
  exact await_waited ..

end ArrivingStream

namespace RecordedStream

theorem exchange_of_unwritten {t : RecordedStream} {r : Request}
    (h : (t.output.writeLine r.text).1 = false) :
    t.exchange r
      = (.error sendFailure, { t with output := (t.output.writeLine r.text).2 }) := by
  rw [exchange]
  simp only [h]
  rfl

/-- An exchange whose request is written waits for its response. -/
theorem exchange_of_written {t : RecordedStream} {r : Request} {outcome : Outcome Response}
    {queue : List ReaderEvent} (h : (t.output.writeLine r.text).1 = true)
    (hawait : awaitResponse r.id (noEvent r.method t.timeout t.reader.gone) t.reader.queue
      = (outcome, queue)) :
    t.exchange r = (outcome, { t with
      output := (t.output.writeLine r.text).2
      reader := { t.reader with queue } }) := by
  rw [exchange]
  simp only [h, hawait]
  rfl

end RecordedStream

namespace ArrivingStream

-- ========================================================== all at once

/-- The other stream is this one once everything has arrived. -/
structure Ahead (t : ArrivingStream) (s : RecordedStream) : Prop where
  unread : t.unread = s.reader.queue
  gone : t.arrived.gone = s.reader.gone
  output : t.output = s.output

theorem ahead_new (pieces : List (List UInt8)) (ends : StreamEnd) (timeout : Option Nat)
    (room : Option Nat) (ms : Nat) :
    Ahead (.new pieces ends timeout room) (.new pieces.flatten ends ms room) := by
  refine ⟨?_, ?_, rfl⟩
  · rw [ArrivingStream.unread, arrived_new]
    rfl
  · rw [arrived_new]
    rfl

/-- An exchange on which time does not run out gives what it gives when everything has arrived. -/
theorem exchange_ahead {t : ArrivingStream} {s : RecordedStream} (h : Ahead t s) {a : Attempt}
    (hlimit : a.limit t.timeout = none) {outcome : Outcome Response}
    (houtcome : (t.exchange a).1 = some outcome) :
    (s.exchange a.request).1 = outcome ∧ Ahead (t.exchange a).2 (s.exchange a.request).2 := by
  have hexpiry : a.expiry t.timeout = none := by rw [Attempt.expiry, hlimit, Option.map_none]
  have hafter := output_exchange a t
  cases hwrite : (t.output.writeLine a.request.text).1 with
  | false =>
      have harrived := arrived_of_unwritten hwrite
      rw [exchange_of_unwritten hwrite] at houtcome
      rw [h.output] at hwrite hafter
      rw [RecordedStream.exchange_of_unwritten hwrite]
      refine ⟨Option.some.inj houtcome, ?_, ?_, hafter⟩
      · rw [ArrivingStream.unread, harrived]
        exact h.unread
      · rw [harrived]
        exact h.gone
  | true =>
      obtain ⟨hgone, hwaited⟩ := exchange_waited hwrite
      rw [hexpiry, houtcome, h.gone, h.unread] at hwaited
      rw [h.output] at hwrite hafter
      rw [RecordedStream.exchange_of_written hwrite (hwaited.awaitResponse ..)]
      exact ⟨rfl, rfl, hgone.trans h.gone, hafter⟩

end ArrivingStream

end ProviderLink.Rpc
