/-
How an exchange over a stream that ends is decided, whatever bytes came
before. The events of such a stream are its lines, those that are not
blank, and one more behind them: that a line is not text, or else how the
bytes ended. A request that is written takes responses with other ids and
one event that decides it, and leaves what is behind. Over a stream with
a timeout, time may run out on it while it waits for that event: then the
event is left, too (`Settles`).

The last event is not a line, so it decides any exchange that gets to it,
and none waits for what never comes (`Drained.exchange`). Once it has
been taken nothing is left for good, and whoever comes then is told that
the connection is closed, unless time runs out on it first.
-/
import ProviderLink.Proofs.Rpc.Exchanges

namespace ProviderLink.Rpc

open Text

/-- What comes of a request, by whether it is written: the events that are still to be taken before,
the outcome, and those that are still to be taken after. -/
inductive Settles (id : RequestId) (expiry : Option ProviderError) :
    (written : Bool) → List ReaderEvent → Outcome Response → List ReaderEvent → Prop
  /-- A request that is not written takes nothing. -/
  | unwritten (queue : List ReaderEvent) : Settles id expiry false queue (.error sendFailure) queue
  /-- One that comes when everything has been taken is told so. -/
  | late : Settles id expiry true [] (.error closedFailure) []
  /-- One that is written waits for the event that decides it, as long as time does not run out. -/
  | waited {queue rest : List ReaderEvent} {outcome : Outcome Response}
    (h : Concludes id expiry queue outcome rest) : Settles id expiry true queue outcome rest

namespace Settles

variable {id : RequestId} {expiry : Option ProviderError} {written : Bool}
  {queue rest : List ReaderEvent} {outcome : Outcome Response}

theorem transport (h : Settles id expiry written queue outcome rest)
    (hexpiry : ∀ error, expiry = some error → ∃ detail, error = .transport detail)
    {error : ProviderError} (herror : outcome = .error error) :
    ∃ detail, error = .transport detail := by
  subst herror
  cases h with
  | unwritten | late => exact ⟨_, rfl⟩
  | waited h =>
      cases h with
      | decided skipped rest hskipped he => exact he.transport
      | expired skipped rest hskipped he => exact hexpiry error he

/-- The events that are taken come first. -/
theorem exists_taken (h : Settles id expiry written queue outcome rest) :
    ∃ taken, queue = taken ++ rest := by
  cases h with
  | unwritten | late => exact ⟨[], rfl⟩
  | waited h =>
      cases h with
      | @decided skipped e => exact ⟨lineEvents skipped ++ [e], by rw [List.append_assoc]; rfl⟩
      | expired skipped => exact ⟨lineEvents skipped, rfl⟩

end Settles

-- ============================================================== drained

/-- The reader will be gone; of its lines and the event behind them these were taken, and the
others are still to be. -/
structure Drained (lines : List String) (last : ReaderEvent) (taken : List ReaderEvent)
    (t : ArrivingStream) : Prop where
  gone : t.arrived.gone = true
  events : lineEvents lines ++ [last] = taken ++ t.unread

namespace Drained

variable {lines : List String} {last : ReaderEvent} {taken : List ReaderEvent}
  {t : ArrivingStream}

/-- Either nothing is left, or the last event is and only lines were taken. -/
theorem queue_cases (h : Drained lines last taken t) :
    t.unread = [] ∨ last ∈ t.unread ∧ ∀ e ∈ taken, ∃ text, e = .line text := by
  rcases List.eq_nil_or_concat t.unread with hempty | ⟨rest, e, hqueue⟩
  · exact Or.inl hempty
  · have hevents := h.events
    rw [hqueue, List.concat_eq_append, ← List.append_assoc] at hevents
    obtain ⟨hlines, hlast⟩ := List.append_inj' hevents rfl
    cases hlast
    refine Or.inr ⟨?_, fun e he => ?_⟩
    · rw [hqueue, List.concat_eq_append]
      exact List.mem_append_right _ (List.mem_singleton_self _)
    · have hmem : e ∈ lineEvents lines := hlines ▸ List.mem_append_left _ he
      obtain ⟨text, -, rfl⟩ := List.mem_map.1 hmem
      exact ⟨text, rfl⟩

/-- An exchange does not wait for ever: an event that comes decides it, or it is too late. -/
theorem exchange (h : Drained lines last taken t) (hlast : ∀ text, last ≠ .line text)
    (a : Attempt) :
    ∃ outcome, (t.exchange a).1 = some outcome ∧
      Settles a.request.id (a.expiry t.timeout) (t.output.writeLine a.request.text).1 t.unread
        outcome (t.exchange a).2.unread ∧
      (t.exchange a).2.arrived.gone = true := by
  cases hwrite : (t.output.writeLine a.request.text).1 with
  | false =>
      have harrived := ArrivingStream.arrived_of_unwritten hwrite
      refine ⟨_, congrArg Prod.fst (ArrivingStream.exchange_of_unwritten hwrite), ?_, ?_⟩
      · rw [ArrivingStream.unread, ArrivingStream.unread, harrived]
        exact .unwritten _
      · rw [harrived]
        exact h.gone
  | true =>
      obtain ⟨hgone, hwaited⟩ := ArrivingStream.exchange_waited hwrite
      rw [h.gone] at hgone hwaited
      have hleft := h.queue_cases
      generalize t.unread = queue at hwaited hleft ⊢
      generalize (t.exchange a).2.unread = rest at hwaited ⊢
      generalize (t.exchange a).1 = answer at hwaited ⊢
      cases hwaited with
      | concluded h => exact ⟨_, rfl, .waited h, hgone⟩
      | passed skipped hskipped =>
          -- what is left ends with the last event, which is not one of the lines
          have hempty : lineEvents skipped = [] := by
            refine hleft.resolve_right fun hlater => ?_
            obtain ⟨text, -, heq⟩ := List.mem_map.1 hlater.1
            exact hlast text heq.symm
          rw [hempty]
          exact ⟨_, rfl, .late, hgone⟩

/-- Exchanges all come to an end, and take the events in order. -/
theorem exchanges (hlast : ∀ text, last ≠ .line text) (schedule : List Attempt) :
    ∀ {taken : List ReaderEvent} {t : ArrivingStream}, Drained lines last taken t →
      (t.exchanges schedule).1.map Exchanged.attempt = schedule ∧
      (t.exchanges schedule).2.timeout = t.timeout ∧
      Drained lines last (taken ++ (t.exchanges schedule).1.flatMap Exchanged.taken)
        (t.exchanges schedule).2 := by
  induction schedule with
  | nil =>
      intro taken t h
      rw [ArrivingStream.exchanges, List.flatMap_nil, List.append_nil]
      exact ⟨rfl, rfl, h⟩
  | cons a schedule ih =>
      intro taken t h
      obtain ⟨outcome, houtcome, hsettles, hgone⟩ := h.exchange hlast a
      obtain ⟨now, hunread⟩ := hsettles.exists_taken
      have hafter : Drained lines last (taken ++ now) (t.exchange a).2 :=
        ⟨hgone, by rw [h.events, hunread, List.append_assoc]⟩
      obtain ⟨hattempts, htimeout, hrest⟩ := ih hafter
      rw [ArrivingStream.exchanges_cons houtcome hunread, List.flatMap_cons,
        ← List.append_assoc]
      exact ⟨congrArg (a :: ·) hattempts, htimeout.trans (ArrivingStream.timeout_exchange a t),
        hrest⟩

end Drained

namespace ArrivingStream

end ArrivingStream

end ProviderLink.Rpc
