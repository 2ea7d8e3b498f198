/-
Everything that is written for the other end reads back as it was: the
envelopes of requests, and the records of arguments and results, for
whatever texts, bytes and tables they hold, be it read from a value or
from a text (`ReadsBack`). A response has one freedom. Written or not, a
`null` in the place of its result or of its error's data is read as absent
(`Response.withoutNulls`), and whoever called is told the same for both
(`Client.readResponse_withoutNulls`).

A value is in key order at every level, as values are where they are kept.
A text is read back where the numbers in it are and where it nests within
the limit; of the records of arguments and results neither is in question.
-/
import ProviderLink.Proofs.Rpc.Message
import ProviderLink.Proofs.Rpc.Params
import ProviderLink.Rpc.Client

namespace ProviderLink.Rpc

open Json

-- ============================================================= records

/-- What is written of something is read as that very thing, from the value and from its text. -/
structure ReadsBack {α : Type} (write : α → Json) (read : Json.Reader α) (x : α) : Prop where
  value : read (write x).canonical = .ok x
  text : (Json.ofText? (write x).text).map read = some (.ok x)

/-- A shallow record that reads back from its value does from its text. -/
theorem ReadsBack.of_value {α : Type} {write : α → Json} {read : Json.Reader α} {x : α}
    (h : read (write x).canonical = .ok x) (hl : (write x).Legible)
    (hd : (write x).depth < maxDepth) : ReadsBack write read x where
  value := h
  text := by rw [Json.ofText?_text hl hd, Option.map_some, h]

/-- The limit leaves room for two levels and more. -/
theorem lt_maxDepth {n : Nat} (h : n ≤ 2) : n < maxDepth :=
  Nat.lt_of_le_of_lt h (by decide)

theorem readsBack_init {r : RunnerData} (h : Dict.Sorted r.userConfig) :
    ReadsBack initJson readInit r :=
  .of_value (readInit_canonical h) (legible_initJson r) (lt_maxDepth (depth_initJson_le r))

theorem ActionEvalParams.readsBack (p : ActionEvalParams) : ReadsBack toJson read p :=
  .of_value p.read_canonical ⟨trivial, trivial, trivial, trivial⟩ (lt_maxDepth (Nat.le_succ 1))

/-- The arguments of a subscription call do, whichever of them are there. -/
theorem SubscriptionParams.readsBack (p : SubscriptionParams) : ReadsBack toJson read p := by
  have hmembers : p.toJson.Legible ∧ p.toJson.depth ≤ 1 := by
    obtain ⟨contextId, subscriptionId, input⟩ := p
    cases subscriptionId with
    | none =>
        cases input with
        | none => exact ⟨⟨trivial, trivial⟩, Nat.le_refl 1⟩
        | some bytes => exact ⟨⟨trivial, trivial, trivial⟩, Nat.le_refl 1⟩
    | some id =>
        cases input with
        | none => exact ⟨⟨trivial, trivial, trivial⟩, Nat.le_refl 1⟩
        | some bytes => exact ⟨⟨trivial, trivial, trivial, trivial⟩, Nat.le_refl 1⟩
  exact .of_value p.read_canonical hmembers.1 (lt_maxDepth (Nat.le_succ_of_le hmembers.2))

theorem readsBack_name (name : String) : ReadsBack nameJson readName name :=
  .of_value (readName_canonical name) ⟨trivial, trivial⟩ (lt_maxDepth (Nat.le_succ 1))

theorem readsBack_payload (payload : Bytes) : ReadsBack payloadJson readPayload payload :=
  .of_value (readPayload_canonical payload) ⟨trivial, trivial⟩ (lt_maxDepth (Nat.le_succ 1))

theorem readsBack_data (bytes : Bytes) : ReadsBack dataJson readData bytes :=
  .of_value (readData_canonical bytes) ⟨trivial, trivial⟩ (lt_maxDepth (Nat.le_succ 1))

theorem HandshakeParams.readsBack (p : HandshakeParams) : ReadsBack toJson read p :=
  .of_value p.read_canonical p.legible_toJson (lt_maxDepth (Nat.le_succ 1))

theorem HandshakeResult.readsBack (r : HandshakeResult) : ReadsBack toJson read r :=
  .of_value r.read_canonical r.legible_toJson (lt_maxDepth (Nat.le_succ 1))

-- ============================================================ requests

theorem Request.received_of_ordered {r : Request} (h : r.params.Ordered) : r.received = r := by
  rw [received, canonical_of_ordered _ h]

theorem Request.read_text {r : Request} (h : r.params.Ordered) (hl : r.params.Legible)
    (hd : r.params.depth + 1 < maxDepth) :
    (Json.ofText? r.text).map Request.read = some (.ok r) := by
  rw [Request.ofText?_text hl hd, Option.map_some, Request.read_canonical, received_of_ordered h]

-- =========================================================== responses

/-- The values in a response are in key order. -/
structure Response.Ordered (r : Response) : Prop where
  result : ∀ v ∈ r.result, v.Ordered
  data : ∀ e ∈ r.error, ∀ v ∈ e.data, v.Ordered

/-- What may be absent, with `null` as absent. -/
def withoutNull (o : Option Json) : Option Json := o.filter fun v => v ≠ .null

def Error.withoutNull (e : Error) : Error := { e with data := Rpc.withoutNull e.data }

/-- The response with no `null` for its result or for its error's data. -/
def Response.withoutNulls (r : Response) : Response :=
  { r with result := withoutNull r.result, error := r.error.map Error.withoutNull }

theorem withoutNull_of_ne {v : Json} (h : v ≠ .null) : withoutNull (some v) = some v := by
  simp [withoutNull, h]

theorem arrived_of_ordered {o : Option Json} (h : ∀ v ∈ o, v.Ordered) :
    arrived o = withoutNull o := by
  cases o with
  | none => rfl
  | some v =>
      -- `null` is the one value that does not arrive as it was sent
      by_cases hv : v = .null
      · subst hv
        rfl
      · rw [arrived_of_ne_null hv, canonical_of_ordered v (h v rfl), withoutNull_of_ne hv]

theorem Response.received_of_ordered {r : Response} (h : r.Ordered) :
    r.received = r.withoutNulls := by
  have herror : r.error.map Error.received = r.error.map Error.withoutNull := by
    refine Option.map_congr fun e he => ?_
    rw [Error.received, arrived_of_ordered (h.data e he)]
    rfl
  rw [received, arrived_of_ordered h.result, herror]
  rfl

/-- A response is read without its nulls. -/
theorem Response.read_value {r : Response} (h : r.Ordered) :
    Response.read r.toJson.canonical = .ok r.withoutNulls := by
  rw [Response.read_canonical, received_of_ordered h]

theorem Response.read_text {r : Response} (h : r.Ordered) (hl : r.Legible)
    (hd : r.toJson.depth < maxDepth) : Response.ofText? r.text = some r.withoutNulls := by
  rw [Response.ofText?_text hl hd, received_of_ordered h]

-- ============================================================== callers

theorem orNull_withoutNull (o : Option Json) : orNull (withoutNull o) = orNull o := by
  cases o with
  | none => rfl
  | some v =>
      by_cases hv : v = .null
      · subst hv
        rfl
      · rw [withoutNull_of_ne hv]

/-- Data of `null` holds no detail and no ids, as no data does. -/
theorem ofRpc_withoutNull (e : Error) : ProviderError.ofRpc e.withoutNull = .ofRpc e := by
  obtain ⟨code, message, data⟩ := e
  cases data with
  | none => rfl
  | some v =>
      by_cases hv : v = .null
      · subst hv
        rfl
      · rw [Error.withoutNull, withoutNull_of_ne hv]

/-- A caller is told the same of a response without its nulls. -/
theorem Client.readResponse_withoutNulls {α : Type} (method : Method) (id : RequestId)
    (read : Json.Reader α) (r : Response) :
    Client.readResponse method id read r.withoutNulls
      = Client.readResponse method id read r := by
  obtain ⟨jsonrpc, responseId, result, error⟩ := r
  unfold Client.readResponse Response.withoutNulls
  cases error with
  | none => simp only [orNull_withoutNull, Option.map_none]
  | some e => simp only [ofRpc_withoutNull, Option.map_some]

/-- Whatever a message holds: requests read back, as do the arguments and
the results of calls; and a response reads back but for a `null` where
nothing might be, which makes no difference to whoever called. -/
theorem messages_read_back :
    (∀ r : Request, r.params.Ordered → Request.read r.toJson.canonical = .ok r ∧
      (r.params.Legible → r.params.depth + 1 < maxDepth →
        (Json.ofText? r.text).map Request.read = some (.ok r))) ∧
    (∀ r : RunnerData, Dict.Sorted r.userConfig → ReadsBack initJson readInit r) ∧
    (∀ p, ReadsBack ActionEvalParams.toJson ActionEvalParams.read p) ∧
    (∀ p, ReadsBack SubscriptionParams.toJson SubscriptionParams.read p) ∧
    (∀ name, ReadsBack nameJson readName name) ∧
    (∀ payload, ReadsBack payloadJson readPayload payload) ∧
    (∀ bytes, ReadsBack dataJson readData bytes) ∧
    (∀ p, ReadsBack HandshakeParams.toJson HandshakeParams.read p) ∧
    (∀ r, ReadsBack HandshakeResult.toJson HandshakeResult.read r) ∧
    ∀ r : Response, r.Ordered → Response.read r.toJson.canonical = .ok r.withoutNulls ∧
      (r.Legible → r.toJson.depth < maxDepth → Response.ofText? r.text = some r.withoutNulls) ∧
      ∀ (α : Type) (method : Method) (id : RequestId) (read : Json.Reader α),
        Client.readResponse method id read r.withoutNulls
          = Client.readResponse method id read r := by
  refine ⟨fun r h => ⟨?_, Request.read_text h⟩, fun _ => readsBack_init,
    ActionEvalParams.readsBack, SubscriptionParams.readsBack, readsBack_name, readsBack_payload,
    readsBack_data, HandshakeParams.readsBack, HandshakeResult.readsBack,
    fun r h => ⟨Response.read_value h, Response.read_text h, fun _ method id read =>
      Client.readResponse_withoutNulls method id read r⟩⟩
  rw [Request.read_canonical, Request.received_of_ordered h]

/-- Two contexts, one of which configures nothing. -/
def demoRunner : RunnerData :=
  ⟨⟨"public", "private"⟩, [("acme", .mk #[123, 125]), ("globex", .empty)]⟩

def demoRequest : Request :=
  ⟨version, .number 7, (Method.call .init).name, (initJson demoRunner).canonical⟩

/-- An answer with a `null` wherever there may be one. -/
def demoNulls : Response :=
  ⟨version, .number 7, some .null, some ⟨Code.failed, "no answer", some .null⟩⟩

theorem messages_read_back_demo :
    ReadsBack initJson readInit demoRunner ∧
      (Json.ofText? demoRequest.text).map Request.read = some (.ok demoRequest) ∧
      Response.ofText? demoNulls.text
        = some ⟨version, .number 7, none, some ⟨Code.failed, "no answer", none⟩⟩ := by
  obtain ⟨hrequests, hinit, -, -, -, -, -, -, -, hresponses⟩ := messages_read_back
  have hsorted : Dict.Sorted demoRunner.userConfig := by decide
  have hparams : demoRequest.params.Ordered := ordered_canonical _
  have hlegible : demoRequest.params.Legible := legible_canonical _ (legible_initJson demoRunner)
  have hdepth : demoRequest.params.depth + 1 < maxDepth := by
    have hle := Nat.le_trans (depth_canonical_le _) (depth_initJson_le demoRunner)
    exact Nat.lt_of_le_of_lt (Nat.succ_le_succ hle) (by decide)
  have hsome : ∀ {α : Type} {P : α → Prop} {x : α}, P x → ∀ y ∈ some x, P y := by
    intro α P x hx y hy
    cases hy
    exact hx
  have hordered : demoNulls.Ordered := ⟨hsome trivial, hsome (hsome trivial)⟩
  have hlegible' : demoNulls.Legible := ⟨hsome trivial, hsome (hsome trivial)⟩
  exact ⟨hinit _ hsorted, (hrequests _ hparams).2 hlegible hdepth,
    (hresponses _ hordered).2.1 hlegible' (by decide)⟩

end ProviderLink.Rpc
