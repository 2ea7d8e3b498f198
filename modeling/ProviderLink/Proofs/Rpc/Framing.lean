/-
Messages written one after the other on a stream, and found there again.
What a message holds does not matter: its text has no line break of its
own, since strings have theirs escaped at any depth, and it begins with a
brace, so that it is not blank whatever Unicode counts as blank
(`Message.isLine_text`). The newline put behind it is the only one there.

Who reads a stream and who serves it split it in the same way but do
different things with what they find. A reader queues every line
(`Reader.feed_texts`). Serving takes up every line too
(`Serving.feed_texts`), but it is over where it refuses the connection, so
it answers all lines or those up to a refusal (`Serving.answers_texts`).
-/
import ProviderLink.Proofs.Rpc.Exchanges

namespace ProviderLink.Rpc

open Text

-- ============================================================ messages

/-- What is written on a stream. -/
inductive Message
  | request (r : Request)
  | response (r : Response)

/-- The line of a message. -/
def Message.text : Message → String
  | request r => r.text
  | response r => r.text

/-- A text that is a line as it stands, and one that is not passed over. -/
structure IsLine (text : String) : Prop where
  uncontrolled : Uncontrolled text
  nonblank : allBlank text = false

theorem Message.isLine_text (m : Message) : IsLine m.text := by
  cases m with
  | request r => exact ⟨r.uncontrolled_text, r.allBlank_text⟩
  | response r => exact ⟨r.uncontrolled_text, r.allBlank_text⟩

theorem IsLine.newline_notMem {text : String} (h : IsLine text) : '\n' ∉ text.toList :=
  fun hmem => absurd (h.uncontrolled _ hmem) (by decide)

theorem IsLine.return_notMem {text : String} (h : IsLine text) : '\r' ∉ text.toList :=
  fun hmem => absurd (h.uncontrolled _ hmem) (by decide)

/-- Writes texts, each with a newline behind it. -/
def Output.writeLines (texts : List String) (o : Output) : Output :=
  texts.foldl (fun o text => (o.writeLine text).2) o

theorem Output.writeLines_unlimited (texts : List String) : ∀ written,
    (⟨written, none⟩ : Output).writeLines texts
      = ⟨written ++ texts.flatMap lineBytes, none⟩ := by
  induction texts with
  | nil => exact fun written => by rw [List.flatMap_nil, List.append_nil]; rfl
  | cons text texts ih =>
      intro written
      have hfirst : (⟨written, none⟩ : Output).writeLines (text :: texts)
          = (⟨written ++ lineBytes text, none⟩ : Output).writeLines texts := by
        rw [writeLines, List.foldl_cons, writeLine_unlimited]
        rfl
      rw [hfirst, ih, List.flatMap_cons, List.append_assoc]

/-- The bytes of a stream on which these texts were written. -/
def written (texts : List String) : List UInt8 :=
  (Output.writeLines texts ⟨[], none⟩).written

theorem written_eq (texts : List String) : written texts = texts.flatMap lineBytes := by
  rw [written, Output.writeLines_unlimited]
  rfl

-- ======================================================== taking apart

section Lines

variable {texts : List String}

/-- A new reader queues the texts that were written, and waits for more. -/
theorem Reader.feed_texts (h : ∀ text ∈ texts, IsLine text) :
    Reader.new.feed (written texts) = ⟨[], lineEvents texts, false⟩ := by
  have hlines : ∀ text ∈ texts, Uncontrolled text := fun text hmem => (h text hmem).uncontrolled
  have hreported : reported (texts.map some) = texts :=
    reported_map_some fun text hmem => (h text hmem).nonblank
  have htext : none ∉ texts.map some := by simp
  have hpending : Reader.new.pending = [] := rfl
  rw [feed_eq, written_eq, hpending, List.nil_append, splitLines_lines hlines,
    map_lineText?_toUTF8 hlines, foldl_line _ rfl, hreported, if_neg htext, List.append_nil,
    decide_eq_false htext]
  rfl

variable {π : Type} [Provider π]

/-- Serving that has nothing pending takes up the texts that were written. -/
theorem Serving.feed_texts (h : ∀ text ∈ texts, IsLine text) {s : Serving π}
    (hpending : s.pending = []) : s.feed (written texts) = s.lines (texts.map some) := by
  have hlines : ∀ text ∈ texts, Uncontrolled text := fun text hmem => (h text hmem).uncontrolled
  rw [feed_eq, written_eq, hpending, List.nil_append, splitLines_lines hlines,
    map_lineText?_toUTF8 hlines, ← lines_pending, ← hpending]

/-- It answers them all, or the last that it answers has the connection refused. -/
theorem Serving.answers_texts (h : ∀ text ∈ texts, IsLine text) (server : Server π) :
    let served := ((start server none).lines (texts.map some)).close
    let opening : Hub Unit π := .opened server
    ∃ answered rest, texts = answered ++ rest
      ∧ served.hub = (opening.runAlone answered).2
      ∧ served.output.written
        = written ((opening.runAlone answered).1.map Response.text)
      ∧ (∀ before, before <+: answered → before ≠ answered →
          ((opening.runAlone before).2.connections ()).rejected = false)
      ∧ (served.ended = some (.ok ()) ∧ rest = []
        ∨ served.ended = some (.error .handshakeRejected)
          ∧ served.connection.rejected = true) := by
  intro served opening
  obtain ⟨answered, rest, hserves⟩ := lines_serves (texts.map some) (start server none) rfl rfl rfl
  -- no line is passed over, so what was answered is where the texts begin
  have hkept : (texts.map some).filter notBlank = texts.map some := by
    refine List.filter_eq_self.2 fun line hmem => ?_
    obtain ⟨text, htext, rfl⟩ := List.mem_map.1 hmem
    rw [notBlank, Option.any_some, (h text htext).nonblank]
    rfl
  have htexts := hserves.lines
  rw [hkept] at htexts
  obtain ⟨answered', rest', rfl, hanswered, rfl⟩ := List.map_eq_append_iff.1 htexts
  obtain rfl : answered' = answered := (List.map_inj_right fun _ _ => Option.some.inj).1 hanswered
  have hserved : served = { (start server none).lines ((answered' ++ rest').map some) with
      ended := some ((start server none).lines ((answered' ++ rest').map some)).result } :=
    close_of_pending (pending_lines _ _)
  rw [hserved]
  refine ⟨answered', rest', rfl, hserves.hub, ?_, hserves.accepted, ?_⟩
  · rw [written_eq]
    exact hserves.written
  · have hended := hserves.ended
    dsimp only
    generalize ((start server none).lines ((answered' ++ rest').map some)).result = ended
      at hended
    generalize hrest : rest'.map some = rest at hended
    cases hended with
    | refused _ hrefused => exact .inr ⟨rfl, hrefused⟩
    | unreadable rest _ =>
        -- a text that was written is text
        have hmem : none ∈ rest'.map some := by
          rw [hrest]
          exact List.mem_cons_self ..
        exact absurd hmem (by simp)
    | complete _ => exact .inl ⟨rfl, List.map_eq_nil_iff.1 hrest⟩

end Lines

/-- Whatever messages are written on a stream and however it is cut on its way, the lines found
on it are the texts of these messages, all of them in their order and nothing else. A reader
queues exactly these. Serving takes up exactly these, whatever state it is in; and a server
answers them all one after the other, unless it refuses the connection on one, which is then the
last that it answers. -/
theorem messages_framed {π : Type} [Provider π] (server : Server π) (messages : List Message)
    {pieces : List (List UInt8)}
    (h : pieces.flatten = written (messages.map Message.text)) :
    let texts := messages.map Message.text
    let read := pieces.foldl Reader.feed .new
    let served := (pieces.foldl Serving.feed (.start server none)).close
    let opening : Hub Unit π := .opened server
    (∀ text ∈ texts, '\n' ∉ text.toList ∧ '\r' ∉ text.toList ∧ allBlank text = false)
      ∧ splitLines pieces.flatten = (texts.map fun text => Bytes.toList text.toUTF8, [])
      ∧ (∀ text ∈ texts, dropReturn (Bytes.toList text.toUTF8) = Bytes.toList text.toUTF8)
      ∧ inputLines pieces.flatten = texts.map some
      ∧ read = ⟨[], lineEvents texts, false⟩
      ∧ read.finish .eof = ⟨[], lineEvents texts ++ [.closed], true⟩
      ∧ (∀ s : Serving π, s.pending = [] →
        pieces.foldl Serving.feed s = s.lines (texts.map some))
      ∧ ∃ answered rest, texts = answered ++ rest
        ∧ served.hub = (opening.runAlone answered).2
        ∧ served.output.written
          = written ((opening.runAlone answered).1.map Response.text)
        ∧ (∀ before, before <+: answered → before ≠ answered →
            ((opening.runAlone before).2.connections ()).rejected = false)
        ∧ (served.ended = some (.ok ()) ∧ rest = []
          ∨ served.ended = some (.error .handshakeRejected)
            ∧ served.connection.rejected = true) := by
  intro texts read served opening
  have hline : ∀ text ∈ texts, IsLine text := by
    intro text hmem
    obtain ⟨m, -, rfl⟩ := List.mem_map.1 hmem
    exact m.isLine_text
  have hlines : ∀ text ∈ texts, Uncontrolled text := fun text hmem =>
    (hline text hmem).uncontrolled
  have hbytes : pieces.flatten = texts.flatMap lineBytes := h.trans (written_eq texts)
  have hread : read = ⟨[], lineEvents texts, false⟩ := by
    rw [← Reader.feed_texts hline, ← h]
    exact Reader.feed_pieces List.not_mem_nil pieces
  have hfed : ∀ s : Serving π, s.pending = [] →
      pieces.foldl Serving.feed s = s.lines (texts.map some) := by
    intro s hpending
    have hnewline : newline ∉ s.pending := by
      rw [hpending]
      exact List.not_mem_nil
    rw [Serving.feed_pieces hnewline, h, Serving.feed_texts hline hpending]
  refine ⟨fun text hmem => ?_, ?_, fun text hmem => dropReturn_toUTF8 (hlines text hmem), ?_, hread,
    ?_, hfed, ?_⟩
  · exact ⟨(hline text hmem).newline_notMem, (hline text hmem).return_notMem,
      (hline text hmem).nonblank⟩
  · rw [hbytes, splitLines_lines hlines]
  · rw [hbytes, inputLines_lineBytes hlines]
  · rw [hread]
    rfl
  · have hserved : served = ((Serving.start server none).lines (texts.map some)).close :=
      congrArg Serving.close (hfed _ rfl)
    rw [hserved]
    exact Serving.answers_texts hline server

/-- Messages with line breaks and other blanks in all their strings. -/
def brokenMessages : List Message :=
  [.request ⟨version, .text "\r\n", "a\u0000\n", .string "\u2028\r"⟩,
    .response ⟨version, .null, none, some ⟨1, "\u0085\n\n", some (.string "\n")⟩⟩]

/-- They are two lines, even if every byte of them comes alone. -/
theorem messages_framed_bytewise :
    let bytes := written (brokenMessages.map Message.text)
    let pieces := bytes.map fun b => [b]
    pieces.flatten = bytes
      ∧ brokenMessages.map Message.text
        = ["\x7b\"jsonrpc\":\"2.0\",\"id\":\"\\r\\n\",\"method\":\"a\\u0000\\n\","
            ++ "\"params\":\"\u2028\\r\"\x7d",
          "\x7b\"jsonrpc\":\"2.0\",\"id\":null,\"error\":\x7b\"code\":1,"
            ++ "\"message\":\"\u0085\\n\\n\",\"data\":\"\\n\"\x7d\x7d"]
      ∧ pieces.foldl Reader.feed .new
        = ⟨[], lineEvents (brokenMessages.map Message.text), false⟩ := by
  intro bytes pieces
  have hpieces : pieces.flatten = bytes := List.flatMap_singleton' bytes
  obtain ⟨-, -, -, -, hread, -⟩ :=
    messages_framed (Server.new (Demo.new false)) brokenMessages hpieces
  exact ⟨hpieces, by decide +kernel, hread⟩

end ProviderLink.Rpc
