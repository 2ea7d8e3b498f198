/-
Requests that are turned down. A line that is answered with a code of
the protocol, because it is no request, names no method or does not say
what its method needs, has had no effect (`handleLine_of_protocol`): what
is missing is noticed before the provider is called, and no failure of
the provider has such a code. One handshake is the exception, the one
that has its connection refused, which is answered with such a code too.

So any of these lines may be left out of a run, at whatever places
(`keepAt`): without them the others are answered as before and all ends
the same (`run_keepAt`, which is the induction over the lines).
-/
import ProviderLink.Proofs.Rpc.Connection
import ProviderLink.Proofs.Rpc.Failure

namespace ProviderLink.Rpc

-- =============================================================== lines

namespace Server

variable {π : Type} [Provider π]

/-- An answer of the provider has no code of the protocol. -/
theorem code_perform {s : Server π} {c : Call} {e : Error} (h : (s.perform c).1 = .error e) :
    e.code ∉ Code.protocol := by
  rw [perform_eq] at h
  dsimp only at h
  cases hreply : (Provider.call c s.provider).1 with
  | ok r =>
      rw [hreply] at h
      cases h
  | error failure =>
      rw [hreply] at h
      cases h
      exact failure.code_notMem_protocol

/-- A request that fails with a code of the protocol has no effect, unless it has its connection
refused. -/
theorem dispatch_of_protocol {s : Server π} {conn : Connection} {r : Request} {e : Error}
    (h : (s.dispatch conn r).1 = .error e) (hcode : e.code ∈ Code.protocol)
    (hspared : (s.dispatch conn r).2.2.rejected = true → conn.rejected = true) :
    (s.dispatch conn r).2 = (s, conn) := by
  rcases s.dispatch_cases conn r with ⟨e', heq⟩ | ⟨hopen, -, heq⟩ | ⟨-, c, -, heq⟩
  · rw [heq]
  · rw [heq] at h hspared ⊢
    rcases handshake_cases conn r.params with ⟨e', heq⟩ | ⟨-, ⟨v, heq⟩ | ⟨fault, heq⟩⟩
    · rw [heq]
    · rw [heq] at h
      cases h
    · -- the handshake was refused, and the connection with it
      rw [heq] at hspared
      rw [hspared rfl] at hopen
      cases hopen
  · rw [heq] at h
    exact absurd hcode (code_perform h)

/-- So it is with a line. -/
theorem handleLine_of_protocol {s : Server π} {conn : Connection} {line : String} {e : Error}
    (h : (s.handleLine conn line).1.error = some e) (hcode : e.code ∈ Code.protocol)
    (hspared : (s.handleLine conn line).2.2.rejected = true → conn.rejected = true) :
    (s.handleLine conn line).2 = (s, conn) := by
  rcases s.handleLine_cases conn line with ⟨id, e', -, heq⟩ | ⟨r, -, heq⟩
  · rw [heq]
  · rw [heq] at h hspared ⊢
    cases hresult : (s.dispatch conn r).1 with
    | ok v =>
        rw [hresult] at h
        cases h
    | error e' =>
        rw [hresult] at h
        cases h
        exact dispatch_of_protocol hresult hcode hspared

end Server

-- ================================================================ runs

/-- The entries at the places that are kept. -/
def keepAt {α : Type} : (Nat → Bool) → List α → List α
  | _, [] => []
  | kept, x :: rest =>
    if kept 0 then x :: keepAt (fun n => kept (n + 1)) rest
    else keepAt (fun n => kept (n + 1)) rest

namespace Hub

variable {ι π : Type} [DecidableEq ι] [Provider π]

/-- A line that is answered with a code of the protocol and does not have its connection
refused. -/
structure TurnedDown (hub : Hub ι π) (l : ι × String) : Prop where
  code : ∃ e, (hub.line l).1.error = some e ∧ e.code ∈ Code.protocol
  spared : ((hub.line l).2.connections l.1).rejected = true →
    (hub.connections l.1).rejected = true

/-- A line that is turned down has no effect. -/
theorem TurnedDown.line {hub : Hub ι π} {l : ι × String} (h : hub.TurnedDown l) :
    (hub.line l).2 = hub := by
  obtain ⟨⟨e, herror, hcode⟩, hspared⟩ := h
  rw [connections_line_self] at hspared
  have hsame := Server.handleLine_of_protocol herror hcode hspared
  rw [line_of_unchanged (Prod.ext rfl hsame)]

theorem turnedDown_of_line {hub : Hub ι π} {l : ι × String} {id : RequestId} {e : Error}
    (h : hub.line l = (Server.respond id (.error e), hub)) (hcode : e.code ∈ Code.protocol) :
    hub.TurnedDown l where
  code := ⟨e, by rw [h]; rfl, hcode⟩
  spared := by
    rw [h]
    exact fun hrejected => hrejected

/-- Lines without effect may be left out of a run. -/
theorem run_keepAt (lines : List (ι × String)) : ∀ (kept : Nat → Bool) (hub : Hub ι π),
    (∀ n l, lines[n]? = some l → kept n = false →
      ((run (lines.take n) hub).2.line l).2 = (run (lines.take n) hub).2) →
    run (keepAt kept lines) hub = (keepAt kept (run lines hub).1, (run lines hub).2) := by
  induction lines with
  | nil => exact fun _ _ _ => rfl
  | cons l lines ih =>
      intro kept hub h
      have hrest := ih (fun n => kept (n + 1)) (hub.line l).2 fun n => h (n + 1)
      rw [run_cons, keepAt, keepAt]
      cases hkept : kept 0 with
      | true =>
          rw [if_pos rfl, if_pos rfl, run_cons, hrest]
      | false =>
          have hsame : (hub.line l).2 = hub := h 0 l rfl hkept
          rw [if_neg Bool.false_ne_true, if_neg Bool.false_ne_true]
          rw [hsame] at hrest ⊢
          exact hrest

/-- Whatever set of lines is left out of a run, if all of them are turned down in it: none of
them had any effect, the others get the same responses without them, and the server and all
connections end the same, the provider and all that it received and answered included. -/
theorem run_without_turned_down (hub : Hub ι (Transcript π)) (lines : List (ι × String))
    (kept : Nat → Bool)
    (hrefused : ∀ n l, lines[n]? = some l → kept n = false →
      TurnedDown (run (lines.take n) hub).2 l) :
    (∀ n l, lines[n]? = some l → kept n = false →
        ((run (lines.take n) hub).2.line l).2 = (run (lines.take n) hub).2)
      ∧ (run (keepAt kept lines) hub).1 = keepAt kept (run lines hub).1
      ∧ (run (keepAt kept lines) hub).2 = (run lines hub).2 := by
  have hidle : ∀ n l, lines[n]? = some l → kept n = false →
      ((run (lines.take n) hub).2.line l).2 = (run (lines.take n) hub).2 :=
    fun n l hl hkept => (hrefused n l hl hkept).line
  have hrun := run_keepAt lines kept hub hidle
  rw [hrun]
  exact ⟨hidle, rfl, rfl⟩

/-- A line that is no value has no effect. -/
theorem line_of_ofText?_eq_none {line : String} (h : Json.ofText? line = none) (hub : Hub ι π)
    (i : ι) :
    hub.line (i, line)
      = (Server.respond .null (.error ⟨Code.parseError, "parse error: " ++ Json.complaint, none⟩),
        hub) := by
  refine line_of_unchanged ?_
  simp only [Server.handleLine, h]

theorem run_without_turned_down_demo :
    let opening : Hub Nat (Transcript Demo) := opened (.new ⟨.new false, []⟩)
    let lines := [(0, "oops"), (0, runnerHandshake.text), (0, runnerHandshake.text)]
    (∀ n l, lines[n]? = some l → (n == 1) = false → TurnedDown (run (lines.take n) opening).2 l)
      ∧ (run [(0, runnerHandshake.text)] opening).2 = (run lines opening).2 := by
  intro opening
  have hoops : Json.ofText? "oops" = none := by decide +kernel
  -- what the handshakes ask is all that matters of them
  have hlines : ∀ {line}, Asks line runnerHandshake →
      let lines := [(0, "oops"), (0, line), (0, line)]
      (∀ n l, lines[n]? = some l → (n == 1) = false →
          TurnedDown (run (lines.take n) opening).2 l)
        ∧ (run [(0, line)] opening).2 = (run lines opening).2 := by
    intro line hasks lines
    have hfirst : opening.line (0, "oops") = _ := line_of_ofText?_eq_none hoops opening 0
    have hcomplete : (run [(0, "oops"), (0, line)] opening).2.connections 0 = .established := by
      rw [run_cons, run_cons, hfirst, run, connections_line_self,
        Server.handleLine_of_asks hasks]
      exact congrArg (fun x => x.2.2)
        (Server.dispatch_agreed agrees_runnerHandshake opening.server)
    have hturned : ∀ n l, lines[n]? = some l → (n == 1) = false →
        TurnedDown (run (lines.take n) opening).2 l := by
      intro n l hl hkept
      match n, hl with
      | 0, rfl => exact turnedDown_of_line hfirst (by decide)
      | 1, _ => cases hkept
      | 2, rfl =>
          have hdispatch := Server.dispatch_repeated (r := runnerHandshake) rfl
            (run [(0, "oops"), (0, line)] opening).2.server
          rw [← hcomplete] at hdispatch
          exact turnedDown_of_line (line_of_dispatch hasks hdispatch) (by decide)
    exact ⟨hturned, (run_without_turned_down opening lines (· == 1) hturned).2.2⟩
  exact hlines asks_runnerHandshake

end Hub

end ProviderLink.Rpc
