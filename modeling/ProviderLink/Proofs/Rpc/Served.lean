/-
A server at work on a whole input. The input is lines, the last of which
need not be complete (`inputLines`), and serving them is a run of the
server over one connection: those that are not blank come in one after
the other, and each response goes out as a line of its own.

The run need not be all of them. It is over with the line that has the
connection refused, or before one that is not text, and what comes then
is not looked at (`Serving.Serves`, which the loop keeps line by line,
`Serving.lines_serves`). How serving ends tells which it was (`Ending`).
-/
import ProviderLink.Proofs.Json.Printing
import ProviderLink.Proofs.Rpc.Established
import ProviderLink.Proofs.Rpc.Pieces

namespace ProviderLink.Rpc

open Json Text

-- =============================================================== lines

/-- The line that bytes are which no newline ends, if there are any. -/
def lastLine (bytes : List UInt8) : List (Option String) :=
  if bytes.isEmpty then [] else [lastLineText? bytes]

/-- The lines of a whole input; `none` stands for one that is not text. -/
def inputLines (input : List UInt8) : List (Option String) :=
  (splitLines input).1.map lineText? ++ lastLine (splitLines input).2

/-- Whether a line is more than blanks. -/
def notBlank (line : Option String) : Bool := !line.any allBlank

/-- Lines that are written are the lines read. -/
theorem inputLines_lineBytes {texts : List String} (h : ∀ text ∈ texts, Uncontrolled text) :
    inputLines (texts.flatMap lineBytes) = texts.map some := by
  rw [inputLines, splitLines_lines h, map_lineText?_toUTF8 h]
  exact List.append_nil _

/-- A carriage return before a newline belongs to it, and the last line needs neither. -/
example : inputLines [0x61, 0x0d, 0x0a, 0x62] = [some "a", some "b"] := by decide +kernel

theorem Response.uncontrolled_text (r : Response) : Uncontrolled r.text :=
  r.toJson.uncontrolled_text

/-- An output without a limit takes every line. -/
theorem Output.writeLine_unlimited (text : String) (written : List UInt8) :
    (⟨written, none⟩ : Output).writeLine text
      = (true, ⟨written ++ lineBytes text, none⟩) := by
  simp only [writeLine, writeBoth, write, lineBytes, List.append_assoc]

-- ============================================================= serving

/-- How serving ends, from what became of the connection and the lines that are left. -/
inductive Ending (conn : Connection) : List (Option String) → Except ServeFault Unit → Prop
  | refused (rest : List (Option String)) (h : conn.rejected = true) :
    Ending conn rest (.error .handshakeRejected)
  | unreadable (rest : List (Option String)) (h : conn.rejected = false) :
    Ending conn (none :: rest) (.error .unreadableLine)
  | complete (h : conn.rejected = false) : Ending conn [] (.ok ())

/-- Lines that all come in over the one connection. -/
def Hub.runAlone {π : Type} [Provider π] (lines : List String) (hub : Hub Unit π) :
    List Response × Hub Unit π :=
  hub.run (lines.map (Prod.mk ()))

namespace Serving

variable {π : Type}

/-- The server with the connection that it serves. -/
def hub (s : Serving π) : Hub Unit π := ⟨s.server, fun _ => s.connection⟩

variable [Provider π]

/-- What serving makes of lines: it answers some, in order, and leaves the rest. Only the last
that it answers may have the connection refused. -/
structure Serves (s : Serving π) (lines : List (Option String)) (answered : List String)
    (rest : List (Option String)) (s' : Serving π) : Prop where
  lines : lines.filter notBlank = answered.map some ++ rest
  hub : s'.hub = (s.hub.runAlone answered).2
  written : s'.output.written
    = s.output.written ++ ((s.hub.runAlone answered).1.map Response.text).flatMap lineBytes
  accepted : ∀ before, before <+: answered → before ≠ answered →
    ((s.hub.runAlone before).2.connections ()).rejected = false
  ended : Ending s'.connection rest s'.result

/-- A line that is not blank is answered with a line, and if it had the connection refused, that
was the last. -/
theorem line_answer {s : Serving π} {text : String} (hblank : allBlank text = false)
    (hroom : s.output.room = none) {response : Response} {server : Server π} {conn : Connection}
    (h : s.server.handleLine s.connection text = (response, server, conn)) :
    s.line (some text)
      = { s with
          server := server
          connection := conn
          output := ⟨s.output.written ++ lineBytes response.text, none⟩
          ended := if conn.rejected then some (.error .handshakeRejected) else none } := by
  obtain ⟨server₀, conn₀, pending, ⟨written, room⟩, ended⟩ := s
  dsimp only at hroom h
  subst hroom
  simp only [line, hblank, h, Output.writeLine_unlimited]
  rfl

/-- It is one line of the run. -/
theorem hub_line {s : Serving π} {text : String} {response : Response} {server : Server π}
    {conn : Connection} (h : s.server.handleLine s.connection text = (response, server, conn)) :
    s.hub.line ((), text) = (response, ⟨server, fun _ => conn⟩) := by
  simp only [Hub.line, hub, h, if_true]

namespace Serves

variable {s s' : Serving π} {lines rest : List (Option String)} {answered : List String}

/-- No line is answered, and serving has ended or no line is left. -/
theorem idle (hhub : s'.hub = s.hub) (hwritten : s'.output.written = s.output.written)
    (hended : Ending s'.connection (lines.filter notBlank) s'.result) :
    s.Serves lines [] (lines.filter notBlank) s' where
  lines := rfl
  hub := hhub
  written := by
    rw [hwritten]
    exact (List.append_nil _).symm
  accepted _ hbefore hne := absurd (List.prefix_nil.1 hbefore) hne
  ended := hended

/-- A blank line makes no difference. -/
theorem blank {text : String} (hblank : allBlank text = true)
    (h : s.Serves lines answered rest s') :
    s.Serves (some text :: lines) answered rest s' where
  lines := by
    rw [List.filter_cons_of_neg (by simpa [notBlank] using hblank), h.lines]
  hub := h.hub
  written := h.written
  accepted := h.accepted
  ended := h.ended

/-- A line is answered, and the others are served by what it makes of the server. -/
theorem answer {text : String} (hblank : allBlank text = false) (hroom : s.output.room = none)
    (hopen : s.connection.rejected = false) {response : Response} {server : Server π}
    {conn : Connection} (h : s.server.handleLine s.connection text = (response, server, conn))
    (hrest : (s.line (some text)).Serves lines answered rest s') :
    s.Serves (some text :: lines) (text :: answered) rest s' := by
  have hline : (s.line (some text)).hub = (s.hub.line ((), text)).2 := by
    rw [line_answer hblank hroom h, hub_line h]
    rfl
  have hrun : ∀ more, s.hub.runAlone (text :: more)
      = (response :: ((s.line (some text)).hub.runAlone more).1,
        ((s.line (some text)).hub.runAlone more).2) := by
    intro more
    rw [hline, Hub.runAlone, List.map_cons, Hub.run_cons, hub_line h]
    rfl
  constructor
  · rw [List.filter_cons_of_pos (by simpa [notBlank] using hblank), hrest.lines]
    rfl
  · rw [hrun, hrest.hub]
  · rw [hrun, hrest.written, line_answer hblank hroom h, List.map_cons, List.flatMap_cons,
      List.append_assoc]
  · intro before hbefore hne
    rcases List.prefix_cons_iff.1 hbefore with rfl | ⟨more, rfl, hmore⟩
    · exact hopen
    · rw [hrun]
      exact hrest.accepted more hmore fun heq => hne (congrArg (text :: ·) heq)
  · exact hrest.ended

end Serves

/-- Serving lines, as long as it goes on and the output takes them. -/
theorem lines_serves (lines : List (Option String)) : ∀ s : Serving π, s.ended = none →
    s.output.room = none → s.connection.rejected = false →
      ∃ answered rest, s.Serves lines answered rest (s.lines lines) := by
  induction lines with
  | nil =>
      intro s hended _ hopen
      have hresult : s.result = .ok () := by
        rw [result, hended]
        rfl
      have hending : Ending s.connection [] s.result := by
        rw [hresult]
        exact .complete hopen
      exact ⟨[], [], .idle rfl rfl hending⟩
  | cons line lines ih =>
      intro s hended hroom hopen
      have hgoes : ¬s.ended.isSome = true := by
        rw [hended]
        exact Bool.false_ne_true
      rw [Serving.lines, if_neg hgoes]
      cases line with
      | none =>
          rw [lines_of_ended rfl]
          exact ⟨[], _, .idle rfl rfl (.unreadable _ hopen)⟩
      | some text =>
          cases hblank : allBlank text with
          | true =>
              have hline : s.line (some text) = s := if_pos hblank
              obtain ⟨answered, rest, hserves⟩ := ih s hended hroom hopen
              rw [hline]
              exact ⟨answered, rest, hserves.blank hblank⟩
          | false =>
              rcases hhandled : s.server.handleLine s.connection text
                with ⟨response, server, conn⟩
              have hline := line_answer hblank hroom hhandled
              suffices hserves : ∃ answered rest, (s.line (some text)).Serves lines answered rest
                  ((s.line (some text)).lines lines) by
                obtain ⟨answered, rest, hserves⟩ := hserves
                exact ⟨text :: answered, rest, hserves.answer hblank hroom hopen hhandled⟩
              -- whether the others are looked at is up to the connection
              cases hrefused : conn.rejected with
              | true =>
                  rw [hrefused, if_pos rfl] at hline
                  rw [hline, lines_of_ended rfl]
                  exact ⟨[], _, .idle rfl rfl (.refused _ hrefused)⟩
              | false =>
                  rw [hrefused, if_neg Bool.false_ne_true] at hline
                  rw [hline]
                  exact ih _ rfl rfl hrefused

/-- At the end of the input the line that is pending is served too. -/
theorem close_eq (s : Serving π) :
    s.close
      = { s.lines (lastLine s.pending) with
          ended := some (s.lines (lastLine s.pending)).result } := by
  have hend (t : Serving π) : (if t.ended.isSome then t else { t with ended := some (.ok ()) })
      = { t with ended := some t.result } := by
    obtain ⟨server, conn, pending, output, ended⟩ := t
    cases ended <;> rfl
  have hlast : (if s.pending.isEmpty then s else s.lines [lastLineText? s.pending])
      = s.lines (lastLine s.pending) := by
    rw [lastLine]
    split <;> rfl
  rw [close, hlast]
  exact hend _

/-- Where nothing is pending, the end of the input is the end. -/
theorem close_of_pending {s : Serving π} (h : s.pending = []) :
    s.close = { s with ended := some s.result } := by
  have hclose := s.close_eq
  rw [h] at hclose
  exact hclose

/-- Serving an input is serving its lines. -/
theorem serve_eq (server : Server π) (room : Option Nat) (input : List UInt8) :
    serve server room input
      = { (start server room).lines (inputLines input) with
          pending := (splitLines input).2
          ended := some ((start server room).lines (inputLines input)).result } := by
  have hpending : (start server room).pending = [] := rfl
  rw [serve, close_eq, feed_eq, hpending, List.nil_append, lines_pending, inputLines,
    lines_append]
  rfl

end Serving

/-- Whatever comes in, and whatever state the server is in, serving it is a run of the server on
the lines that are not blank. Each is answered with one line, in their order, up to the one that
has the connection refused, and nothing after that line has any effect. If there is none, serving
ends well with the input, whose last line needs no newline, unless there is a line that is not
text. -/
theorem serve_run {π : Type} [Provider π] (server : Server π) (input : List UInt8) :
    let served := serve server none input
    let opening : Hub Unit π := .opened server
    ∃ answered rest ended,
      (inputLines input).filter notBlank = answered.map some ++ rest
        ∧ served.hub = (opening.runAlone answered).2
        ∧ served.output.written
          = ((opening.runAlone answered).1.map Response.text).flatMap lineBytes
        ∧ inputLines served.output.written
          = ((opening.runAlone answered).1.map Response.text).map some
        ∧ (∀ before, before <+: answered → before ≠ answered →
            ((opening.runAlone before).2.connections ()).rejected = false)
        ∧ served.ended = some ended ∧ Ending served.connection rest ended := by
  intro served opening
  obtain ⟨answered, rest, hserves⟩ :=
    Serving.lines_serves (inputLines input) (.start server none) rfl rfl rfl
  have hserved : served = _ := Serving.serve_eq server none input
  have hwritten : served.output.written
      = ((opening.runAlone answered).1.map Response.text).flatMap lineBytes := by
    rw [hserved]
    exact hserves.written
  have huncontrolled :
      ∀ text ∈ (opening.runAlone answered).1.map Response.text, Uncontrolled text := by
    intro text hmem
    obtain ⟨response, -, rfl⟩ := List.mem_map.1 hmem
    exact response.uncontrolled_text
  refine ⟨answered, rest, ((Serving.start server none).lines (inputLines input)).result,
    hserves.lines, ?_, hwritten, ?_, hserves.accepted, ?_, ?_⟩
  · rw [hserved]
    exact hserves.hub
  · rw [hwritten]
    exact inputLines_lineBytes huncontrolled
  · rw [hserved]
  · rw [hserved]
    exact hserves.ended

end ProviderLink.Rpc
