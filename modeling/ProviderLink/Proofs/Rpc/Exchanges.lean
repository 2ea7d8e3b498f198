/-
Exchanges one after the other over a stream, some of which fail. An
exchange that fails on an undecodable line, or on which time runs out,
leaves its own response unread, and later ones find it and discard it; a
response that is repeated, or that nobody asked for, is discarded
likewise. So a stream finds its way back by itself, as long as the first
responses come in the order of the requests.

Everything rests on how far an exchange reads. It goes past responses with
other ids and stops at the first event that is anything else, which
decides it, or at none if time runs out (`Concludes`). Let a request be
answered at the place of the first line that carries its id
(`answeredAt`): no exchange reads beyond that (`exchange_lines`). Since
the places increase, what is still unread holds the answers to all later
requests, and this is the invariant, kept by a success and a failure alike
(`exchanges_synchronized`).

A line that is not text is no line here: it ends the reader, and nothing
behind it is ever read. Blank lines are not reported. So what matters of
a stream is the list of lines that it comes to (`heard`); how they arrive
matters only to whether time runs out.
-/
import ProviderLink.Proofs.Rpc.Arrival
import ProviderLink.Proofs.Rpc.StreamClient

namespace ProviderLink.Rpc

open Text

-- ======================================================= lines reported

/-- The lines that are reported: those that are not blank, up to one that is not text. -/
def reported : List (Option String) → List String
  | [] => []
  | none :: _ => []
  | some text :: rest => if allBlank text then reported rest else text :: reported rest

/-- All lines of a stream; `none` stands for one that is not text. -/
def allLines (bytes : List UInt8) (ends : StreamEnd) : List (Option String) :=
  (splitLines bytes).1.map lineText? ++
    if ends = .eof ∧ (splitLines bytes).2 ≠ [] then [lastLineText? (splitLines bytes).2] else []

/-- The lines that a reader of a stream reports. -/
def heard (bytes : List UInt8) (ends : StreamEnd) : List String :=
  reported (allLines bytes ends)

/-- No event is a line. -/
def Lineless (events : List ReaderEvent) : Prop := ∀ text, .line text ∉ events

namespace Reader

theorem foldl_line_of_gone {r : Reader} (h : r.gone) (texts : List (Option String)) :
    texts.foldl line r = r := by
  induction texts with
  | nil => rfl
  | cons text texts ih =>
      have hline : r.line text = r := by
        cases text with
        | none => exact report_of_gone h (.failure notText)
        | some text => exact report_of_gone h (.line text)
      rw [List.foldl_cons, hline, ih]

/-- Lines are reported in order, and where one is not text, that comes last. -/
theorem foldl_line (texts : List (Option String)) : ∀ {r : Reader}, r.gone = false →
    texts.foldl line r = { r with
      queue := r.queue ++ lineEvents (reported texts)
        ++ if none ∈ texts then [.failure notText] else []
      gone := decide (none ∈ texts) } := by
  induction texts with
  | nil =>
      intro r hr
      simp [reported, lineEvents, ← hr]
  | cons text texts ih =>
      intro r hr
      rw [List.foldl_cons]
      cases text with
      | none =>
          have hline : r.line none
              = { r with queue := r.queue ++ [.failure notText], gone := true } :=
            report_last hr (e := .failure notText) fun _ h => by cases h
          rw [hline, foldl_line_of_gone rfl]
          simp [reported, lineEvents]
      | some text =>
          cases hblank : allBlank text with
          | true =>
              have hline : r.line (some text) = r := by
                rw [line, report, hr]
                simp [hblank]
              rw [hline, ih hr, reported, if_pos hblank]
              simp
          | false =>
              have hline : r.line (some text) = { r with queue := r.queue ++ [.line text] } := by
                rw [line, report, hr]
                simp [hblank]
              rw [hline, ih (r := { r with queue := r.queue ++ [.line text] }) hr, reported, hblank]
              simp [lineEvents]

/-- A failure or the end comes last, unless something else did. -/
theorem queue_report (r : Reader) {e : ReaderEvent} (he : ∀ text, e ≠ .line text) :
    (r.report e).queue = r.queue ++ if r.gone then [] else [e] := by
  cases hgone : r.gone with
  | true => simp [report_of_gone hgone]
  | false => simp [report_last hgone he]

end Reader

/-- What a reader of a stream reports last: that a line is not text, or else how the bytes end,
if they do. -/
def lastEvents (bytes : List UInt8) (ends : StreamEnd) : List ReaderEvent :=
  if none ∈ allLines bytes ends then [.failure Reader.notText]
  else match ends with
  | .eof => [.closed]
  | .silence => []
  | .failure message => [.failure message]

theorem lineless_lastEvents (bytes : List UInt8) (ends : StreamEnd) :
    Lineless (lastEvents bytes ends) := by
  intro text
  unfold lastEvents
  split
  · simp
  · cases ends <;> simp

/-- What a reader of some lines has in its queue once it has reported how the bytes end. -/
theorem Reader.queue_report_lines {texts : List (Option String)} {r : Reader}
    {pending : List UInt8} (hr : r = { texts.foldl line .new with pending }) {e : ReaderEvent}
    (he : ∀ text, e ≠ .line text) :
    (r.report e).queue = lineEvents (reported texts)
      ++ if none ∈ texts then [.failure notText] else [e] := by
  rw [queue_report _ he, hr, foldl_line texts rfl]
  by_cases hnone : none ∈ texts <;> simp [hnone, new]

namespace RecordedStream

/-- A recorded stream has its lines in the queue, and behind them what is reported last. -/
theorem queue_new_eq (bytes : List UInt8) (ends : StreamEnd) (timeout : Nat)
    (room : Option Nat) :
    (new bytes ends timeout room).reader.queue
      = lineEvents (heard bytes ends) ++ lastEvents bytes ends := by
  have hreader : (Reader.new.feed bytes)
      = { ((splitLines bytes).1.map lineText?).foldl Reader.line .new with
          pending := (splitLines bytes).2 } := Reader.feed_eq .new bytes
  unfold heard lastEvents allLines
  cases ends with
  | silence =>
      rw [if_neg (fun h => by cases h.1), List.append_nil, new, Reader.finish, hreader,
        Reader.foldl_line _ rfl]
      rfl
  | failure message =>
      rw [if_neg (fun h => by cases h.1), List.append_nil, new, Reader.finish]
      exact Reader.queue_report_lines hreader fun _ h => by cases h
  | eof =>
      by_cases hrest : (splitLines bytes).2 = []
      · have hpending : (Reader.new.feed bytes).pending.isEmpty = true := by
          rw [hreader, hrest]
          rfl
        rw [if_neg (fun h => h.2 hrest), List.append_nil, new, Reader.finish, if_pos hpending]
        exact Reader.queue_report_lines hreader fun _ h => by cases h
      · have hpending : ¬(Reader.new.feed bytes).pending.isEmpty = true := by
          rw [hreader, List.isEmpty_iff]
          exact hrest
        -- the end completes the last line
        have hlast : (Reader.new.feed bytes).line (lastLineText? (Reader.new.feed bytes).pending)
            = { ((splitLines bytes).1.map lineText? ++ [lastLineText? (splitLines bytes).2]).foldl
                Reader.line .new with pending := (splitLines bytes).2 } := by
          rw [List.foldl_append, hreader, Reader.line_pending]
          rfl
        rw [if_pos ⟨rfl, hrest⟩, new, Reader.finish, if_neg hpending]
        exact Reader.queue_report_lines hlast fun _ h => by cases h

/-- Behind the lines there is no line. -/
theorem queue_new (bytes : List UInt8) (ends : StreamEnd) (timeout : Nat)
    (room : Option Nat) :
    ∃ last, (new bytes ends timeout room).reader.queue = lineEvents (heard bytes ends) ++ last
      ∧ Lineless last :=
  ⟨_, queue_new_eq bytes ends timeout room, lineless_lastEvents bytes ends⟩

end RecordedStream

/-- Lines that are text and not blank are all reported. -/
theorem reported_map_some {texts : List String} (h : ∀ text ∈ texts, allBlank text = false) :
    reported (texts.map some) = texts := by
  induction texts with
  | nil => rfl
  | cons text texts ih =>
      rw [List.forall_mem_cons] at h
      rw [List.map_cons, reported, h.1, if_neg Bool.false_ne_true, ih h.2]

/-- Of whole lines that are not blank, all are heard. -/
theorem heard_lines {texts : List String}
    (h : ∀ text ∈ texts, Uncontrolled text ∧ allBlank text = false) (ends : StreamEnd) :
    heard (texts.flatMap lineBytes) ends = texts := by
  have hlines : ∀ text ∈ texts, Uncontrolled text := fun text hmem => (h text hmem).1
  rw [heard, allLines, splitLines_lines hlines, map_lineText?_toUTF8 hlines,
    if_neg (fun h => h.2 rfl), List.append_nil]
  exact reported_map_some fun text hmem => (h text hmem).2

-- ==================================================== lines and requests

/-- The line is a response with this id. -/
def carries (id : RequestId) (text : String) : Bool :=
  match decodeResponse text with
  | .ok r => r.id = id
  | .error _ => false

def undecodable (text : String) : Bool := !(decodeResponse text).isOk

/-- Where a request is answered: the place of the first line with its id. -/
def answeredAt (id : RequestId) (lines : List String) : Nat := lines.findIdx (carries id)

theorem carries_of_foreign {id : RequestId} {text : String} (h : Foreign id text) :
    carries id text = false := by
  obtain ⟨r, hdecode, hid⟩ := h
  rw [carries, hdecode]
  exact decide_eq_false hid

theorem carries_of_undecodable {id : RequestId} {text : String} (h : undecodable text) :
    carries id text = false := by
  unfold undecodable at h
  unfold carries
  cases hdecode : decodeResponse text with
  | ok r =>
      rw [hdecode] at h
      cases h
  | error e => rfl

theorem answeredAt_append {id : RequestId} {before : List String}
    (h : ∀ text ∈ before, carries id text = false) (rest : List String) :
    answeredAt id (before ++ rest) = before.length + answeredAt id rest := by
  have hbefore : before.findIdx (carries id) = before.length := List.findIdx_eq_length.2 h
  rw [answeredAt, List.findIdx_append, hbefore, if_neg (Nat.lt_irrefl _), Nat.add_comm]
  rfl

/-- What is read before a request is answered does not carry its id. -/
theorem carries_of_le_answeredAt {id : RequestId} {before rest : List String}
    (h : before.length ≤ answeredAt id (before ++ rest)) :
    ∀ text ∈ before, carries id text = false := by
  rw [answeredAt, List.findIdx_append] at h
  split at h
  case isTrue hlt => omega
  case isFalse hge =>
    refine List.findIdx_eq_length.1 ?_
    have hle : before.findIdx (carries id) ≤ before.length := List.findIdx_le_length
    omega

/-- Before a line with the id of an exchange, what it goes past is lines. -/
theorem skipped_before {id : RequestId} {last : List ReaderEvent} {skipped : List String}
    (hskipped : ∀ other ∈ skipped, Foreign id other) : ∀ {unread : List String}
      {more : List ReaderEvent}, lineEvents skipped ++ more = lineEvents unread ++ last →
      (∃ text ∈ unread, carries id text) →
      ∃ behind, unread = skipped ++ behind ∧ more = lineEvents behind ++ last ∧
        ∃ text ∈ behind, carries id text := by
  induction skipped with
  | nil => exact fun {unread} _ heq hown => ⟨unread, rfl, heq, hown⟩
  | cons other skipped ih =>
      obtain ⟨hother, hskipped⟩ := List.forall_mem_cons.1 hskipped
      rintro unread more heq ⟨own, hmem, hown⟩
      cases unread with
      | nil => cases hmem
      | cons text unread =>
          obtain ⟨htext, hrest⟩ := List.cons.inj heq
          cases htext
          rcases List.mem_cons.1 hmem with rfl | hmem
          · rw [carries_of_foreign hother] at hown
            cases hown
          · obtain ⟨behind, rfl, hmore, hbehind⟩ := ih hskipped hrest ⟨own, hmem, hown⟩
            exact ⟨behind, rfl, hmore, hbehind⟩

-- ============================================================ exchanges

/-- The output takes these lines, one after the other. -/
def Output.Takes : List String → Output → Prop
  | [], _ => True
  | text :: rest, o => (o.writeLine text).1 = true ∧ Takes rest (o.writeLine text).2

theorem Output.takes_unlimited (texts : List String) :
    ∀ written, Takes texts ⟨written, none⟩ := by
  induction texts with
  | nil => exact fun _ => trivial
  | cons text texts ih =>
      intro written
      rw [Takes, writeLine_unlimited]
      exact ⟨rfl, ih _⟩

/-- An exchange: what was requested and how, what came of it, and the events it took. -/
structure Exchanged where
  attempt : Attempt
  outcome : Outcome Response
  taken : List ReaderEvent

namespace Exchanged

def request (x : Exchanged) : Request := x.attempt.request

/-- It took responses with other ids and then one with its own, which it gave. -/
def Received (x : Exchanged) : Prop :=
  ∃ skipped text r, x.taken = lineEvents (skipped ++ [text]) ∧
    (∀ other ∈ skipped, Foreign x.request.id other) ∧
    decodeResponse text = .ok r ∧ r.id = x.request.id ∧ x.outcome = .ok r

/-- It took responses with other ids and then one line that cannot be decoded. -/
def Failed (x : Exchanged) : Prop :=
  ∃ skipped text detail, x.taken = lineEvents (skipped ++ [text]) ∧
    (∀ other ∈ skipped, Foreign x.request.id other) ∧
    decodeResponse text = .error (.transport detail) ∧
    x.outcome = .error (.transport detail)

/-- It took responses with other ids, and then its time ran out. -/
def Expired (timeout : Option Nat) (x : Exchanged) : Prop :=
  ∃ skipped error, x.taken = lineEvents skipped ∧
    (∀ other ∈ skipped, Foreign x.request.id other) ∧
    x.attempt.expiry timeout = some error ∧ x.outcome = .error error

end Exchanged

/-- A line that decides an exchange is its answer, or the answer is behind it. -/
theorem Decides.received_or_failed {a : Attempt} {skipped : List String} {text : String}
    {outcome : Outcome Response} (h : Decides a.request.id (.line text) outcome)
    (hskipped : ∀ other ∈ skipped, Foreign a.request.id other) (rest : List String) :
    (Exchanged.Received ⟨a, outcome, lineEvents (skipped ++ [text])⟩ ∧
        answeredAt a.request.id (text :: rest) = 0) ∨
      (Exchanged.Failed ⟨a, outcome, lineEvents (skipped ++ [text])⟩ ∧
        0 < answeredAt a.request.id (text :: rest)) := by
  rw [answeredAt, List.findIdx_cons]
  cases h with
  | own hdecode hid =>
      have hcarries : carries a.request.id text = true := by
        rw [carries, hdecode]
        exact decide_eq_true hid
      rw [hcarries]
      exact Or.inl ⟨⟨skipped, text, _, rfl, hskipped, hdecode, hid, rfl⟩, rfl⟩
  | undecodable hdecode =>
      have hcarries : carries a.request.id text = false := by rw [carries, hdecode]
      rw [hcarries]
      exact Or.inr ⟨⟨skipped, text, _, rfl, hskipped, hdecode, rfl⟩, Nat.succ_pos _⟩

/-- Exchanges in step with the lines of a stream, of which some are read: each gives the first
line that carries its id, or fails, and leaves the answers to all later ones unread. -/
def Synchronized (lines : List String) (timeout : Option Nat) : Nat → List Exchanged → Prop
  | _, [] => True
  | read, x :: rest =>
    ((x.Received ∧ read + x.taken.length = answeredAt x.request.id lines + 1) ∨
        x.Failed ∨ x.Expired timeout) ∧
      (∀ y ∈ rest, read + x.taken.length ≤ answeredAt y.request.id lines) ∧
      Synchronized lines timeout (read + x.taken.length) rest

namespace ArrivingStream

/-- Exchanges in order, and the stream afterwards. While one waits, none that comes later begins. -/
def exchanges : List Attempt → ArrivingStream → List Exchanged × ArrivingStream
  | [], t => ([], t)
  | a :: rest, t =>
    let t' := (t.exchange a).2
    match (t.exchange a).1 with
    | none => ([], t')
    | some outcome =>
      let taken := t.unread.take (t.unread.length - t'.unread.length)
      let (log, last) := exchanges rest t'
      (⟨a, outcome, taken⟩ :: log, last)

/-- The first of several exchanges, and the others. -/
theorem exchanges_cons {t : ArrivingStream} {a : Attempt} {outcome : Outcome Response}
    {taken : List ReaderEvent} (h : (t.exchange a).1 = some outcome)
    (hunread : t.unread = taken ++ (t.exchange a).2.unread) (schedule : List Attempt) :
    t.exchanges (a :: schedule)
      = (⟨a, outcome, taken⟩ :: ((t.exchange a).2.exchanges schedule).1,
        ((t.exchange a).2.exchanges schedule).2) := by
  have htaken : t.unread.take (t.unread.length - (t.exchange a).2.unread.length) = taken := by
    rw [hunread, List.length_append, Nat.add_sub_cancel, List.take_left]
  simp only [exchanges, h, htaken]

/-- An exchange takes lines up to the place where its request is answered, or fails before. -/
theorem exchange_lines {lines read unread : List String} {last : List ReaderEvent}
    {t : ArrivingStream} {a : Attempt} (hlines : lines = read ++ unread)
    (hunread : t.unread = lineEvents unread ++ last)
    (hwrite : (t.output.writeLine a.request.text).1 = true)
    (hread : read.length ≤ answeredAt a.request.id lines)
    (hanswered : answeredAt a.request.id lines < lines.length) :
    ∃ outcome taken rest, unread = taken ++ rest ∧ (t.exchange a).1 = some outcome ∧
      (t.exchange a).2.unread = lineEvents rest ++ last ∧
      ((Exchanged.Received ⟨a, outcome, lineEvents taken⟩ ∧
          read.length + taken.length = answeredAt a.request.id lines + 1) ∨
        ((Exchanged.Failed ⟨a, outcome, lineEvents taken⟩ ∨
            Exchanged.Expired t.timeout ⟨a, outcome, lineEvents taken⟩) ∧
          read.length + taken.length ≤ answeredAt a.request.id lines)) := by
  subst hlines
  have hbefore := carries_of_le_answeredAt hread
  rw [answeredAt_append hbefore] at hanswered ⊢
  have hexists : ∃ text ∈ unread, carries a.request.id text := by
    rw [List.length_append] at hanswered
    exact List.findIdx_lt_length.1 (Nat.lt_of_add_lt_add_left hanswered)
  obtain ⟨-, hwaited⟩ := exchange_waited hwrite
  generalize (t.exchange a).2.unread = left at hwaited ⊢
  generalize (t.exchange a).1 = answer at hwaited ⊢
  generalize t.unread = queue at hwaited hunread
  cases hwaited with
  | passed skipped hskipped =>
      -- it would have gone past its answer
      have hnothing : lineEvents skipped ++ [] = lineEvents unread ++ last := by
        rw [List.append_nil, hunread]
      obtain ⟨behind, -, hbehind, text, htext, -⟩ := skipped_before hskipped hnothing hexists
      rw [lineEvents, eq_comm, List.append_eq_nil_iff, List.map_eq_nil_iff] at hbehind
      rw [hbehind.1] at htext
      cases htext
  | @concluded _ _ outcome h =>
      cases h with
      | expired skipped rest hskipped herror =>
          obtain ⟨behind, rfl, rfl, -⟩ := skipped_before hskipped hunread hexists
          have hplace := answeredAt_append (fun s hs => carries_of_foreign (hskipped s hs)) behind
          exact ⟨_, skipped, behind, rfl, rfl, rfl,
            Or.inr ⟨Or.inr ⟨skipped, _, rfl, hskipped, herror, rfl⟩, by omega⟩⟩
      | decided skipped rest hskipped hdecides =>
          obtain ⟨behind, rfl, hmore, hown⟩ := skipped_before hskipped hunread hexists
          have hplace := answeredAt_append (fun s hs => carries_of_foreign (hskipped s hs)) behind
          rw [hplace]
          cases behind with
          | nil =>
              obtain ⟨_, hmem, -⟩ := hown
              cases hmem
          | cons text behind =>
              obtain ⟨rfl, rfl⟩ := List.cons.inj hmore
              refine ⟨outcome, skipped ++ [text], behind, by simp, rfl, rfl, ?_⟩
              rw [List.length_append, List.length_singleton]
              rcases hdecides.received_or_failed hskipped behind with ⟨hreceived, h⟩ | ⟨hfailed, h⟩
              · exact Or.inl ⟨hreceived, by omega⟩
              · exact Or.inr ⟨Or.inl hfailed, by omega⟩

/-- From any place of the stream on, as long as the answers are still to come. -/
theorem exchanges_synchronized {lines : List String} {last : List ReaderEvent}
    {timeout : Option Nat} :
    ∀ (schedule : List Attempt) (read unread : List String) {t : ArrivingStream},
      lines = read ++ unread → t.unread = lineEvents unread ++ last → t.timeout = timeout →
      t.output.Takes (schedule.map fun a => a.request.text) →
      (∀ a ∈ schedule, read.length ≤ answeredAt a.request.id lines ∧
        answeredAt a.request.id lines < lines.length) →
      (schedule.map fun a => answeredAt a.request.id lines).Pairwise (· < ·) →
      (t.exchanges schedule).1.map Exchanged.attempt = schedule ∧
      Synchronized lines timeout read.length (t.exchanges schedule).1 ∧
      ∃ rest, lineEvents unread
        = (t.exchanges schedule).1.flatMap Exchanged.taken ++ lineEvents rest := by
  intro schedule
  induction schedule with
  | nil =>
      intro read unread t _ _ _ _ _ _
      exact ⟨rfl, trivial, unread, rfl⟩
  | cons a schedule ih =>
      rintro read unread t hlines hunread rfl hwrites hplaces horder
      obtain ⟨hwrite, hwrites⟩ := hwrites
      obtain ⟨⟨hread, hanswered⟩, hplaces⟩ := List.forall_mem_cons.1 hplaces
      obtain ⟨hlater, horder⟩ := List.pairwise_cons.1 horder
      obtain ⟨outcome, taken, rest, rfl, houtcome, hrest, hstep⟩ :=
        exchange_lines hlines hunread hwrite hread hanswered
      -- wherever the exchange stopped, the later answers are behind that
      have hreach : read.length + taken.length ≤ answeredAt a.request.id lines + 1 := by
        rcases hstep with ⟨-, h⟩ | ⟨-, h⟩ <;> omega
      have hstill : ∀ b ∈ schedule, read.length + taken.length ≤ answeredAt b.request.id lines := by
        intro b hb
        have hbehind : answeredAt a.request.id lines < answeredAt b.request.id lines :=
          hlater _ (List.mem_map_of_mem hb)
        omega
      have htaken : t.unread = lineEvents taken ++ (t.exchange a).2.unread := by
        rw [hunread, hrest, lineEvents, List.map_append, List.append_assoc]
        rfl
      rw [exchanges_cons houtcome htaken]
      obtain ⟨hschedule, hlog, unread, hleft⟩ := ih (read ++ taken) rest
        (by rw [hlines, List.append_assoc]) hrest (timeout_exchange a t)
        (by rw [output_exchange]; exact hwrites)
        (fun b hb => ⟨by rw [List.length_append]; exact hstill b hb, (hplaces b hb).2⟩) horder
      have hlength : (lineEvents taken).length = taken.length := List.length_map ..
      refine ⟨congrArg (a :: ·) hschedule, ⟨?_, fun y hy => ?_, ?_⟩, unread, ?_⟩
      · rw [hlength]
        exact hstep.imp_right And.left
      · rw [hlength]
        refine hstill y.attempt ?_
        rw [← hschedule]
        exact List.mem_map_of_mem hy
      · rw [hlength, ← List.length_append]
        exact hlog
      · rw [List.flatMap_cons, List.append_assoc, ← hleft]
        exact List.map_append

end ArrivingStream

-- ============================================================== failures

/-- The line of this event cannot be decoded. -/
def undecodableEvent : ReaderEvent → Bool
  | .line text => undecodable text
  | _ => false

theorem countP_lineEvents (lines : List String) :
    (lineEvents lines).countP undecodableEvent = lines.countP undecodable :=
  List.countP_map

theorem undecodable_of_foreign {id : RequestId} {text : String} (h : Foreign id text) :
    undecodable text = false := by
  obtain ⟨r, hdecode, -⟩ := h
  rw [undecodable, hdecode]
  rfl

theorem countP_skipped {id : RequestId} {skipped : List String}
    (hskipped : ∀ other ∈ skipped, Foreign id other) : skipped.countP undecodable = 0 := by
  refine List.countP_eq_zero.2 fun other hother => ?_
  rw [undecodable_of_foreign (hskipped other hother)]
  exact Bool.false_ne_true

namespace Exchanged

def failed (x : Exchanged) : Bool := !x.outcome.isOk

/-- It failed because its time ran out. -/
def expired (timeout : Option Nat) (x : Exchanged) : Bool :=
  match x.attempt.expiry timeout, x.outcome with
  | some error, .error e => e = error
  | _, _ => false

/-- An exchange that fails takes an undecodable line, unless its time runs out. -/
theorem failed_le {timeout : Option Nat} {x : Exchanged}
    (h : x.Received ∨ x.Failed ∨ x.Expired timeout) :
    (if x.failed then 1 else 0)
      ≤ x.taken.countP undecodableEvent + if x.expired timeout then 1 else 0 := by
  rcases h with ⟨_, _, _, -, -, -, -, houtcome⟩ |
    ⟨skipped, text, detail, htaken, hskipped, hdecode, -⟩ | ⟨_, error, -, -, hexpiry, houtcome⟩
  · rw [failed, houtcome]
    exact Nat.zero_le _
  · have htext : undecodable text = true := by rw [undecodable, hdecode]; rfl
    have hone : x.taken.countP undecodableEvent = 1 := by
      rw [htaken, countP_lineEvents, List.countP_append, countP_skipped hskipped,
        List.countP_singleton, htext]
      rfl
    split <;> omega
  · have hexpired : x.expired timeout = true := by
      rw [expired, hexpiry, houtcome]
      exact decide_eq_true rfl
    rw [hexpired, if_pos rfl]
    split <;> omega

end Exchanged

theorem Synchronized.each {lines : List String} {timeout : Option Nat} {log : List Exchanged} :
    ∀ {read : Nat}, Synchronized lines timeout read log →
      ∀ x ∈ log, x.Received ∨ x.Failed ∨ x.Expired timeout := by
  induction log with
  | nil => exact fun _ _ hx => absurd hx List.not_mem_nil
  | cons x log ih =>
      intro read h
      exact List.forall_mem_cons.2 ⟨h.1.imp_left And.left, ih h.2.2⟩

/-- No more exchanges fail than undecodable lines are taken, but for those whose time runs out. -/
theorem countP_failed_le {timeout : Option Nat} {log : List Exchanged}
    (h : ∀ x ∈ log, x.Received ∨ x.Failed ∨ x.Expired timeout) :
    log.countP Exchanged.failed ≤ (log.flatMap Exchanged.taken).countP undecodableEvent
      + log.countP (Exchanged.expired timeout) := by
  induction log with
  | nil => exact Nat.zero_le _
  | cons x log ih =>
      obtain ⟨hx, hlog⟩ := List.forall_mem_cons.1 h
      have hone := Exchanged.failed_le hx
      have hmore := ih hlog
      rw [List.countP_cons, List.countP_cons, List.flatMap_cons, List.countP_append]
      omega

-- ================================================================ runs

/-- What comes of some requests, one after the other. -/
def RecordedStream.outcomes : List Request → RecordedStream → List (Outcome Response)
  | [], _ => []
  | r :: rest, t => (t.exchange r).1 :: outcomes rest (t.exchange r).2

/-- Where time runs out on none of the exchanges, and all come to an end, they give what they give
when everything has arrived. -/
theorem ArrivingStream.exchanges_ahead (schedule : List Attempt) :
    ∀ {t : ArrivingStream} {s : RecordedStream}, Ahead t s →
      (∀ a ∈ schedule, a.limit t.timeout = none) →
      (t.exchanges schedule).1.map Exchanged.attempt = schedule →
      (t.exchanges schedule).1.map Exchanged.outcome
        = s.outcomes (schedule.map Attempt.request) := by
  induction schedule with
  | nil => exact fun _ _ _ => rfl
  | cons a schedule ih =>
      intro t s h hlimits hends
      obtain ⟨hlimit, hlimits⟩ := List.forall_mem_cons.1 hlimits
      cases houtcome : (t.exchange a).1 with
      | none =>
          simp only [exchanges, houtcome] at hends
          cases hends
      | some outcome =>
          obtain ⟨hsame, hafter⟩ := exchange_ahead h hlimit houtcome
          simp only [exchanges, houtcome] at hends ⊢
          rw [List.map_cons, List.map_cons, RecordedStream.outcomes, hsame]
          rw [← timeout_exchange a t] at hlimits
          rw [ih hafter hlimits (List.cons.inj hends).2]

/-- Where the requests are written and first answered in their order, whatever else the stream
says and whenever its bytes arrive: each exchange gives the first line that carries its id, or
fails with exactly one undecodable line, or fails because its time ran out, having taken nothing
but responses with other ids. The answers to later ones are left unread. No line goes to two
exchanges, and no more exchanges fail than lines are undecodable and times run out. Where time
runs out on none, the outcomes are those of a stream that is there from the start. -/
theorem exchanges_resynchronize {pieces : List (List UInt8)} {ends : StreamEnd}
    (timeout : Option Nat) {room : Option Nat} {schedule : List Attempt}
    (hwrites : Output.Takes (schedule.map fun a => a.request.text) ⟨[], room⟩)
    (hanswered : ∀ a ∈ schedule, ∃ text ∈ heard pieces.flatten ends, carries a.request.id text)
    (horder : (schedule.map fun a =>
      answeredAt a.request.id (heard pieces.flatten ends)).Pairwise (· < ·)) :
    ∃ log, ((ArrivingStream.new pieces ends timeout room).exchanges schedule).1 = log ∧
      log.map Exchanged.attempt = schedule ∧
      (∃ last, (ArrivingStream.new pieces ends timeout room).unread
        = lineEvents (heard pieces.flatten ends) ++ last ∧ Lineless last) ∧
      Synchronized (heard pieces.flatten ends) timeout 0 log ∧
      (∃ unread, lineEvents (heard pieces.flatten ends)
        = log.flatMap Exchanged.taken ++ lineEvents unread) ∧
      log.countP Exchanged.failed ≤ (heard pieces.flatten ends).countP undecodable
        + log.countP (Exchanged.expired timeout) ∧
      ((∀ a ∈ schedule, a.limit timeout = none) → ∀ ms, log.map Exchanged.outcome
        = (RecordedStream.new pieces.flatten ends ms room).outcomes
            (schedule.map Attempt.request)) := by
  obtain ⟨last, hqueue, hlast⟩ := RecordedStream.queue_new pieces.flatten ends 0 room
  have hunread : (ArrivingStream.new pieces ends timeout room).unread
      = lineEvents (heard pieces.flatten ends) ++ last :=
    (ArrivingStream.ahead_new pieces ends timeout room 0).unread.trans hqueue
  obtain ⟨hschedule, hlog, unread, hleft⟩ := ArrivingStream.exchanges_synchronized schedule [] _
    rfl hunread (show _ = timeout from rfl) hwrites
    (fun a ha => ⟨Nat.zero_le _, List.findIdx_lt_length.2 (hanswered a ha)⟩) horder
  refine ⟨_, rfl, hschedule, ⟨last, hunread, hlast⟩, hlog, ⟨unread, hleft⟩, ?_, ?_⟩
  · have hfailed := countP_failed_le hlog.each
    rw [← countP_lineEvents, hleft, List.countP_append]
    omega
  · exact fun hlimits ms => ArrivingStream.exchanges_ahead schedule
      (ArrivingStream.ahead_new pieces ends timeout room ms) hlimits hschedule

/-- A request with this id. -/
def namesRequest (id : RequestId) : Request :=
  ⟨version, id, (Method.call .actionNames).name, .null⟩

/-- A line that answers a request with nothing. -/
def emptyAnswer (id : RequestId) : String := (Server.respond id (.ok .null)).text

/-- The first exchange fails, and its answer, which comes twice, is discarded by later ones. -/
def disturbedLines : List String :=
  ["oops", emptyAnswer (.number 1), emptyAnswer (.number 1), emptyAnswer (.number 2),
    emptyAnswer (.number 3)]

/-- Time runs out on the second, which discards the answers to the first. -/
def disturbedSchedule : List Attempt :=
  [⟨namesRequest (.number 1), 1, none⟩, ⟨namesRequest (.number 2), 2, some 0⟩,
    ⟨namesRequest (.number 3), 0, none⟩]

theorem decodeResponse_emptyAnswer (id : RequestId) :
    decodeResponse (emptyAnswer id) = .ok ⟨version, id, arrived (some .null), none⟩ :=
  decodeResponse_ok id (by simp [Json.Legible]) (by decide)

theorem carries_emptyAnswer (id id' : RequestId) :
    carries id (emptyAnswer id') = decide (id' = id) := by
  rw [carries, decodeResponse_emptyAnswer]

theorem undecodable_emptyAnswer (id : RequestId) : undecodable (emptyAnswer id) = false := by
  rw [undecodable, decodeResponse_emptyAnswer]
  rfl

theorem exchanges_disturbed :
    let lines := heard (disturbedLines.map lineBytes).flatten .eof
    Output.Takes (disturbedSchedule.map fun a => a.request.text) ⟨[], none⟩ ∧
      (∀ a ∈ disturbedSchedule, ∃ text ∈ lines, carries a.request.id text) ∧
      (disturbedSchedule.map fun a => answeredAt a.request.id lines) = [1, 3, 4] ∧
      ∃ log, ((ArrivingStream.new (disturbedLines.map lineBytes) .eof (some 20) none).exchanges
          disturbedSchedule).1 = log ∧
        Synchronized lines (some 20) 0 log ∧
        log.countP Exchanged.failed ≤ 1 + log.countP (Exchanged.expired (some 20)) := by
  intro lines
  have hoops : undecodable "oops" := by decide +kernel
  have hlines : lines = disturbedLines := by
    refine heard_lines (fun text htext => ?_) .eof
    simp only [disturbedLines, List.mem_cons, List.not_mem_nil, or_false] at htext
    rcases htext with rfl | rfl | rfl | rfl | rfl
    · exact ⟨by simp [Uncontrolled], by decide⟩
    all_goals exact ⟨Response.uncontrolled_text _, Response.allBlank_text _⟩
  have hwrites : Output.Takes (disturbedSchedule.map fun a => a.request.text) ⟨[], none⟩ :=
    Output.takes_unlimited _ _
  have hplaces : (disturbedSchedule.map fun a => answeredAt a.request.id lines) = [1, 3, 4] := by
    rw [hlines]
    simp [disturbedSchedule, namesRequest, answeredAt, disturbedLines, List.findIdx_cons,
      carries_of_undecodable hoops, carries_emptyAnswer]
  have hanswered : ∀ a ∈ disturbedSchedule, ∃ text ∈ lines, carries a.request.id text := by
    rw [hlines]
    simp [disturbedSchedule, namesRequest, disturbedLines, carries_emptyAnswer]
  obtain ⟨log, hlog, -, -, hsynchronized, -, hfailed, -⟩ :=
    exchanges_resynchronize (some 20) hwrites hanswered (by rw [hplaces]; decide)
  refine ⟨hwrites, hanswered, hplaces, log, hlog, hsynchronized, ?_⟩
  rw [show heard _ _ = disturbedLines from hlines] at hfailed
  simpa [disturbedLines, List.countP_cons, hoops, undecodable_emptyAnswer] using hfailed

/-- Time may run out on an exchange while its answer is on its way, of which the end is missing
yet. It fails with no undecodable line. -/
theorem exchanges_hurried :
    let text := emptyAnswer (.number 1)
    let pieces := [Bytes.toList text.toUTF8, [newline]]
    let hurried : Attempt := ⟨namesRequest (.number 1), 1, some 0⟩
    heard pieces.flatten .eof = [text] ∧ carries hurried.request.id text = true ∧
      undecodable text = false ∧
      ((ArrivingStream.new pieces .eof (some 20) none).exchanges [hurried]).1
        = [⟨hurried, .error (timedOut hurried.request.method 20), []⟩] := by
  intro text pieces hurried
  have htext : Uncontrolled text ∧ allBlank text = false :=
    ⟨Response.uncontrolled_text _, Response.allBlank_text _⟩
  refine ⟨?_, by rw [carries_emptyAnswer]; rfl, undecodable_emptyAnswer _, ?_⟩
  · exact heard_lines (List.forall_mem_singleton.2 htext) .eof
  · -- what has arrived is no line yet
    have hearly : Reader.new.feed (Bytes.toList text.toUTF8)
        = { Reader.new with pending := Bytes.toList text.toUTF8 } :=
      Reader.feed_nil (r := { Reader.new with pending := Bytes.toList text.toUTF8 })
        fun hnewline => absurd (htext.1.le_byte _ hnewline) (by decide)
    let t := ArrivingStream.new pieces .eof (some 20) none
    have harrived : (t.arrive 1).reader
        = { Reader.new with pending := Bytes.toList text.toUTF8 } := hearly
    have hexchange := ArrivingStream.exchange_of_written (t := t) (a := hurried) rfl
    rw [show t.arrive hurried.early = t.arrive 1 from rfl, harrived] at hexchange
    have hunread : t.unread = [] ++ (t.exchange hurried).2.unread := by
      rw [hexchange, ArrivingStream.unread, ← ArrivingStream.arrived_arrive 1,
        ArrivingStream.arrived, harrived]
      rfl
    rw [ArrivingStream.exchanges_cons (by rw [hexchange]; rfl) hunread]
    rfl

end ProviderLink.Rpc
