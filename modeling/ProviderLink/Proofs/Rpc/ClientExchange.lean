/-
What a client makes of its exchanges, whatever its transport. A call is
one exchange, under the next id, and its outcome is read off the answer
alone: a reply if the answer is a response to this very request, without
an error and with a result that reads, and nothing else is a reply
(`readResponse_eq_ok`). What is no failure of the transport has come from
the other end, through the transport or in the error of a response
(`readResponse_eq_error`).

To say which exchanges there were, the transport is overheard. That is a
transport again, so what is proved of any transport is proved of it, and
no client can tell (`OneEach`, `run_overheard`).
-/
import ProviderLink.Proofs.Rpc.LocalClient

namespace ProviderLink.Rpc

open Json

-- =========================================================== responses

/-- The response is of the protocol's version and to this request. -/
structure Counts (request : Request) (r : Response) : Prop where
  jsonrpc : r.jsonrpc = version
  id : r.id = request.id

/-- What a request fetches: a reply exactly if a response that counts carries one and no error;
and a failure other than of the transport only if the transport returned it or a response that
counts carries an error that stands for it. -/
structure Fetched {α : Type} (request : Request) (read : Json.Reader α)
    (answer : Outcome Response) (outcome : Outcome α) : Prop where
  ok : ∀ x, outcome = .ok x ↔ ∃ r, answer = .ok r ∧ Counts request r ∧ r.error = none
    ∧ read (orNull r.result) = .ok x
  error : ∀ e, outcome = .error e → (∃ why, e = .transport why) ∨ answer = .error e
    ∨ ∃ r err, answer = .ok r ∧ Counts request r ∧ r.error = some err
      ∧ ProviderError.Recognized err ∧ e = .ofRpc err

namespace Client

section Reading

variable {α : Type} {method : Method} {id : RequestId} {read : Json.Reader α} {r : Response}

/-- A response that is of the version and has the id gives the reply that its result reads as,
unless it has an error. -/
theorem readResponse_eq_ok {x : α} :
    readResponse method id read r = .ok x ↔ (r.jsonrpc = version ∧ r.id = id) ∧ r.error = none
      ∧ read (orNull r.result) = .ok x := by
  unfold readResponse
  split
  · next hmismatch =>
    exact iff_of_false nofun fun ⟨hmatches, _⟩ =>
      hmismatch.elim (· hmatches.1) (· hmatches.2)
  · next hmatches =>
    obtain ⟨hversion, hid⟩ := not_or.1 hmatches
    rw [and_iff_right ⟨Decidable.not_not.1 hversion, Decidable.not_not.1 hid⟩]
    split
    · next err herror =>
      rw [herror]
      exact iff_of_false nofun fun h => nomatch h.1
    · next herror =>
      rw [and_iff_right herror]
      split
      · next y hread => rw [hread, Except.ok.injEq, Except.ok.injEq]
      · next fault hread =>
        rw [hread]
        exact iff_of_false nofun nofun

/-- A failure that it gives is of the transport, or it has an error that stands for it. -/
theorem readResponse_eq_error {e : ProviderError} (h : readResponse method id read r = .error e) :
    (∃ why, e = .transport why) ∨ (r.jsonrpc = version ∧ r.id = id)
      ∧ ∃ err, r.error = some err ∧ ProviderError.Recognized err ∧ e = .ofRpc err := by
  unfold readResponse at h
  split at h
  · cases h
    exact Or.inl ⟨_, rfl⟩
  · next hmatches =>
    obtain ⟨hversion, hid⟩ := not_or.1 hmatches
    split at h
    · next err herror =>
      cases h
      by_cases hrecognized : ProviderError.Recognized err
      · exact Or.inr ⟨⟨Decidable.not_not.1 hversion, Decidable.not_not.1 hid⟩, err, herror,
          hrecognized, rfl⟩
      · exact Or.inl (ProviderError.ofRpc_unrecognized hrecognized)
    · split at h
      · cases h
      · cases h
        exact Or.inl ⟨_, rfl⟩

end Reading

variable {τ : Type} [Transport τ]

/-- One exchange fetches what its answer gives. -/
theorem fetched_request {α : Type} (method : Method) (params : Json) (read : Json.Reader α)
    (client : Client τ) :
    Fetched ⟨version, .number client.nextId, method.name, params⟩ read
      (Transport.exchange ⟨version, .number client.nextId, method.name, params⟩
        client.transport).1 (client.request method params read).1 := by
  rw [request_eq]
  constructor
  · intro x
    refine bind_eq_ok.trans (exists_congr fun r => and_congr_right fun _ => ?_)
    refine readResponse_eq_ok.trans (and_congr_left fun _ => ?_)
    exact ⟨fun h => ⟨h.1, h.2⟩, fun h => ⟨h.jsonrpc, h.id⟩⟩
  · intro e he
    rcases bind_eq_error.1 he with hanswer | ⟨r, hanswer, hread⟩
    · exact Or.inr (Or.inl hanswer)
    · rcases readResponse_eq_error hread with htransport | ⟨hmatches, err, herror, hstands⟩
      · exact Or.inl htransport
      · exact Or.inr (Or.inr ⟨r, err, hanswer, ⟨hmatches.1, hmatches.2⟩, herror, hstands⟩)

-- ========================================================== connecting

theorem checkVersion_eq_ok {accept : UInt32 → Except String Unit} {v : UInt32} :
    checkVersion accept v = .ok () ↔ accept v = .ok () ∧ v = protocolVersion := by
  unfold checkVersion
  cases accept v with
  | error why => exact iff_of_false nofun fun h => nomatch h.1
  | ok =>
      rw [and_iff_right rfl]
      by_cases hv : v = protocolVersion
      · exact iff_of_true (if_pos hv) hv
      · simp only [if_neg hv]
        exact iff_of_false nofun hv

theorem transport_of_checkVersion {accept : UInt32 → Except String Unit} {v : UInt32}
    {e : ProviderError} (h : checkVersion accept v = .error e) : ∃ why, e = .transport why := by
  unfold checkVersion at h
  split at h
  · cases h
    exact ⟨_, rfl⟩
  · split at h
    · cases h
    · cases h
      exact ⟨_, rfl⟩

/-- Connecting succeeds if the handshake brings an accepted version, the one spoken here. -/
theorem connectIf_eq_ok {accept : UInt32 → Except String Unit} {transport : τ} :
    (connectIf accept transport).1 = .ok () ↔ ∃ result,
      ((⟨transport, 1⟩ : Client τ).request .handshake HandshakeParams.current.toJson.canonical
          HandshakeResult.read).1 = .ok result
        ∧ accept result.protocolVersion = .ok () ∧ result.protocolVersion = protocolVersion := by
  rw [connectIf_eq]
  refine bind_eq_ok.trans (exists_congr fun result => ?_)
  rw [mapError_eq_ok, checkVersion_eq_ok]

/-- Otherwise it fails with a failure of the transport. -/
theorem transport_of_connectIf {accept : UInt32 → Except String Unit} {transport : τ}
    {e : ProviderError} (h : (connectIf accept transport).1 = .error e) :
    ∃ why, e = .transport why := by
  rw [connectIf_eq] at h
  rcases bind_eq_error.1 h with hanswer | ⟨result, -, hversion⟩
  · obtain ⟨_, -, rfl⟩ := mapError_eq_error.1 hanswer
    exact ⟨_, rfl⟩
  · exact transport_of_checkVersion hversion

end Client

-- =========================================================== overhearing

/-- A request and the answer that the transport brought. -/
structure Carried where
  request : Request
  answer : Outcome Response

/-- What a transport carries for a request. -/
def carry {τ : Type} [Transport τ] (r : Request) (t : τ) : Carried :=
  ⟨r, (Transport.exchange r t).1⟩

/-- A transport and all that it carried, in order. -/
structure Overheard (τ : Type) where
  transport : τ
  log : List Carried

/-- Overhearing changes no answer. -/
instance {τ : Type} [Transport τ] : Transport (Overheard τ) where
  exchange r t :=
    let (answer, transport) := Transport.exchange r t.transport
    (answer, ⟨transport, t.log ++ [carry r t.transport]⟩)

/-- One exchange for each call, under ids that count up from this one, and what each fetched. -/
inductive OneEach : Int64 → List Answered → List Carried → Prop
  | nil (n : Int64) : OneEach n [] []
  | cons {n : Int64} {a : Answered} {x : Carried} {answers : List Answered}
    {carried : List Carried}
    (hrequest : x.request = ⟨version, .number n, a.call.method.name, a.call.params⟩)
    (hfetched : Fetched x.request a.call.readReply x.answer a.outcome)
    (hrest : OneEach (n + 1) answers carried) : OneEach n (a :: answers) (x :: carried)

/-- The ids count up. -/
theorem OneEach.id {n : Int64} {answers : List Answered} {carried : List Carried}
    (h : OneEach n answers carried) : ∀ (i : Nat) (x : Carried), carried[i]? = some x →
      x.request.id = .number (n + .ofNat i) := by
  induction h with
  | nil => exact fun _ _ hx => nomatch hx
  | @cons n a x answers carried hrequest hfetched hrest ih =>
      intro i y hy
      cases i with
      | zero =>
          cases hy
          rw [hrequest]
          exact congrArg RequestId.number (Int64.add_zero n).symm
      | succ i =>
          rw [ih i y hy, Int64.ofNat_add, Int64.add_assoc, Int64.add_comm 1]
          rfl

variable {τ : Type} [Transport τ]

/-- A client over an overheard transport is answered as over the transport, and each of its calls
is one exchange. -/
theorem run_overheard (calls : List Call) : ∀ (t : τ) (log : List Carried) (n : Int64),
    ∃ carried,
      (Provider.run calls (⟨⟨t, log⟩, n⟩ : Client (Overheard τ))).2.transport.log = log ++ carried
        ∧ (Provider.run calls (⟨⟨t, log⟩, n⟩ : Client (Overheard τ))).1
          = (Provider.run calls (⟨t, n⟩ : Client τ)).1
        ∧ OneEach n (Provider.run calls (⟨t, n⟩ : Client τ)).1 carried := by
  induction calls with
  | nil => exact fun t log n => ⟨[], (List.append_nil log).symm, rfl, .nil n⟩
  | cons c calls ih =>
      intro t log n
      obtain ⟨carried, hlog, hanswers, heach⟩ := ih (Provider.call c (⟨t, n⟩ : Client τ)).2.transport
        (log ++ [carry ⟨version, .number n, c.method.name, c.params⟩ t]) (n + 1)
      refine ⟨_ :: carried, hlog.trans (List.append_assoc ..), congrArg (List.cons _) hanswers, ?_⟩
      exact .cons rfl (Client.fetched_request c.method c.params c.readReply ⟨t, n⟩) heach

/-- Over any transport, whatever it answers, a client makes one exchange to connect and one for
each call, in order, under the ids 1, 2, 3 and so on. A call is given a reply exactly if the answer
is a response of the version and to this request, without an error, whose result, or `null`, reads
as the reply; a failure other than of the transport is one that the transport returned, or that a
response to this request carries. Connecting succeeds exactly if its exchange brings the version
of the protocol in this way, and otherwise fails with a failure of the transport. What is said of
the calls holds in either case. -/
theorem run_fetched (t : τ) (calls : List Call) :
    let connected := Client.connect (⟨t, []⟩ : Overheard τ)
    let ran := Provider.run calls connected.2
    let hello := carry (handshakeRequest (.number 1) .current) t
    connected.1 = (Client.connect t).1
      ∧ ran.1 = (Provider.run calls (Client.connect t).2).1
      ∧ ran.1.map Answered.call = calls
      ∧ (connected.1 = .ok () ↔ ∃ r result, hello.answer = .ok r ∧ Counts hello.request r
          ∧ r.error = none ∧ HandshakeResult.read (orNull r.result) = .ok result
          ∧ result.protocolVersion = 2)
      ∧ (∀ e, connected.1 = .error e → ∃ why, e = .transport why)
      ∧ ∃ carried, ran.2.transport.log = hello :: carried ∧ OneEach 2 ran.1 carried
        ∧ ∀ i x, (hello :: carried)[i]? = some x → ∃ n : Int64, x.request.id = .number n
            ∧ n = .ofNat (i + 1) ∧ (i + 1 < 0x8000000000000000 → n.toInt = .ofNat (i + 1)) := by
  intro connected ran hello
  have hclient : connected.2
      = ⟨⟨(Transport.exchange hello.request t).2, [hello]⟩, 2⟩ := by
    change (Client.connect _).2 = _
    rw [Client.connect, Client.connectIf_eq]
    rfl
  have hplain : (Client.connect t).2 = ⟨(Transport.exchange hello.request t).2, 2⟩ := by
    rw [Client.connect, Client.connectIf_eq]
    rfl
  have hconnected : connected.1 = (Client.connect t).1 := by
    change (Client.connect _).1 = _
    rw [Client.connect, Client.connect, Client.connectIf_eq, Client.connectIf_eq]
    rfl
  obtain ⟨carried, hlog, hanswers, heach⟩ := run_overheard calls
    (Transport.exchange hello.request t).2 [hello] 2
  rw [← hclient] at hlog hanswers
  rw [← hplain] at hanswers heach
  refine ⟨hconnected, hanswers, Provider.map_call_run calls _, ?_,
    fun e => Client.transport_of_connectIf, carried, hlog, hanswers ▸ heach, fun i x hx => ?_⟩
  · have hfetched := Client.fetched_request .handshake HandshakeParams.current.toJson.canonical
      HandshakeResult.read (⟨t, 1⟩ : Client τ)
    refine Client.connectIf_eq_ok.trans ⟨?_, ?_⟩
    · rintro ⟨result, hresult, -, hversion⟩
      obtain ⟨r, hanswer, hcounts, herror, hread⟩ := (hfetched.ok result).1 hresult
      exact ⟨r, result, hanswer, hcounts, herror, hread, hversion⟩
    · rintro ⟨r, result, hanswer, hcounts, herror, hread, hversion⟩
      exact ⟨result, (hfetched.ok result).2 ⟨r, hanswer, hcounts, herror, hread⟩, rfl, hversion⟩
  · refine ⟨.ofNat (i + 1), ?_, rfl, fun hlt => Int64.toInt_ofNat_of_lt hlt⟩
    cases i with
    | zero =>
        cases hx
        rfl
    | succ i =>
        rw [heach.id i x hx, Nat.add_assoc, Nat.add_comm i, Int64.ofNat_add]
        rfl

end ProviderLink.Rpc
