/-
What the other end makes of a message. A request arrives as it was sent,
with its parameters in canonical form; a response too, but for a result
or data of `null`, which arrives as absent. `received` says so for each
record, and the theorems say that reading agrees with it: from a value
(`read_canonical`) and from a line (`Request.ofText?_text`,
`Response.ofText?_text`), as long as the line nests less than text may.

The line of a response is read field by field, with a bound of its own
for each; a value below the bound for the line keeps all of its parts
below theirs.
-/
import ProviderLink.Proofs.Json.Reading
import ProviderLink.Proofs.Json.Selected
import ProviderLink.Rpc.Message

namespace ProviderLink.Rpc

open Json

attribute [local simp] Fields.field Fields.optional Fields.given Dict.get?_cons

-- ============================================================== absent

/-- What may be absent, as it arrives: `null` counts as absent. -/
def arrived : Option Json → Option Json
  | none | some .null => none
  | some v => some v.canonical

/-- What is there and is not `null` arrives. -/
theorem arrived_of_ne_null {v : Json} (h : v ≠ .null) :
    arrived (some v) = some v.canonical := by
  rw [arrived]
  exact h

/-- A value that may be absent is read as it arrives. -/
@[simp] theorem readAny?_canonical (v : Json) :
    readAny? v.canonical = .ok (arrived (some v)) := by
  cases v with
  | null => rw [canonical_null]; rfl
  | bool | number | string => simp only [canonical]; rfl
  | array | object => simp only [canonical, arrived]; rfl

/-- An absent value stands for `null`, so nothing is lost in arriving. -/
theorem orNull_arrived (o : Option Json) : orNull (arrived o) = (orNull o).canonical := by
  cases o with
  | none => exact canonical_null.symm
  | some v =>
      by_cases h : v = .null
      · subst h
        exact canonical_null.symm
      · rw [arrived_of_ne_null h]
        rfl

-- ============================================================ requests

/-- An id reads back. -/
@[simp] theorem RequestId.read_canonical (id : RequestId) :
    RequestId.read id.toJson.canonical = .ok id := by
  cases id with
  | text s => rw [RequestId.toJson, canonical_string]; rfl
  | null => rw [RequestId.toJson, canonical_null]; rfl
  | number n =>
      have hrange : -0x8000000000000000 ≤ n.toInt ∧ n.toInt < 0x8000000000000000 :=
        ⟨n.le_toInt, n.toInt_lt⟩
      rw [RequestId.toJson, canonical_number, Number.ofInt64, RequestId.read, if_pos hrange,
        Int64.ofInt_toInt]

theorem RequestId.legible_toJson (id : RequestId) : id.toJson.Legible := by
  cases id with
  | text | null => exact trivial
  | number n => exact Number.legible_int n.toInt _

theorem RequestId.depth_toJson (id : RequestId) : id.toJson.depth = 0 := by
  cases id <;> rfl

/-- A request as it arrives. -/
def Request.received (r : Request) : Request := { r with params := r.params.canonical }

/-- The record of a request is read as it arrives. -/
theorem Request.read_canonical (r : Request) :
    Request.read r.toJson.canonical = .ok r.received := by
  apply eq_ok_of_toOption
  simp [Request.read, Request.fields, Request.toJson, Request.received]

/-- The line of a request, read. -/
theorem Request.ofText?_text {r : Request} (hl : r.params.Legible)
    (hd : r.params.depth + 1 < maxDepth) :
    Json.ofText? r.text = some r.toJson.canonical := by
  refine Json.ofText?_text ⟨trivial, r.id.legible_toJson, trivial, hl, trivial⟩ ?_
  simp only [Request.toJson, depth, depthMembers, r.id.depth_toJson]
  omega

-- ============================================================== errors

/-- An error as it arrives. -/
def Error.received (e : Error) : Error := { e with data := arrived e.data }

/-- The record of an error is read as it arrives. -/
theorem Error.read_canonical (e : Error) :
    Error.read e.toJson.canonical = .ok e.received := by
  obtain ⟨code, message, data⟩ := e
  apply eq_ok_of_toOption
  cases data with
  | none => simp [Error.read, Error.fields, Error.toJson, Error.received, memberIf, arrived]
  | some v => simp [Error.read, Error.fields, Error.toJson, Error.received, memberIf]

/-- An error that may be absent is read where it is there. -/
@[simp] theorem readOption_error (e : Error) :
    readOption Error.read e.toJson.canonical = .ok (some e.received) := by
  rw [readOption_of_ne_null, Error.read_canonical]
  · rfl
  · rw [Error.toJson, canonical]
    exact fun h => by cases h

/-- The record of an error is legible where its data is. -/
theorem Error.legible_toJson {e : Error} (h : ∀ v ∈ e.data, v.Legible) :
    e.toJson.Legible := by
  refine legibleMembers_iff.2 fun m hm => ?_
  rcases List.mem_append.1 hm with hm | hm
  · simp only [List.mem_cons, List.not_mem_nil, or_false] at hm
    rcases hm with rfl | rfl
    · exact Number.legible_int e.code.toInt _
    · exact trivial
  · cases hdata : e.data with
    | none => rw [hdata] at hm; cases hm
    | some v =>
        rw [hdata] at hm
        rw [List.mem_singleton.1 hm]
        exact h v hdata

-- =========================================================== responses

/-- A response as it arrives. -/
def Response.received (r : Response) : Response :=
  { r with result := arrived r.result, error := r.error.map Error.received }

/-- The record of a response is read as it arrives. -/
theorem Response.read_canonical (r : Response) :
    Response.read r.toJson.canonical = .ok r.received := by
  obtain ⟨jsonrpc, id, result, error⟩ := r
  apply eq_ok_of_toOption
  cases result with
  | none =>
      cases error <;>
        simp [Response.read, Response.fields, Response.toJson, Response.received, memberIf,
          arrived]
  | some v =>
      cases error <;>
        simp [Response.read, Response.fields, Response.toJson, Response.received, memberIf]

/-- Whether a response is legible as a whole: its result and the data of its error are. -/
structure Response.Legible (r : Response) : Prop where
  result : ∀ v ∈ r.result, v.Legible
  data : ∀ e ∈ r.error, ∀ v ∈ e.data, v.Legible

/-- What a record of a response is made of. -/
theorem Response.mem_members {r : Response} {m : String × Json}
    (h : m ∈ [("jsonrpc", .string r.jsonrpc), ("id", r.id.toJson)] ++
      memberIf "result" r.result ++ memberIf "error" (r.error.map Error.toJson)) :
    m = ("jsonrpc", .string r.jsonrpc) ∨ m = ("id", r.id.toJson)
      ∨ (∃ v, r.result = some v ∧ m = ("result", v))
      ∨ ∃ e, r.error = some e ∧ m = ("error", e.toJson) := by
  rcases List.mem_append.1 h with h | h
  · rcases List.mem_append.1 h with h | h
    · simp only [List.mem_cons, List.not_mem_nil, or_false] at h
      exact h.imp_right Or.inl
    · cases hresult : r.result with
      | none => rw [hresult] at h; cases h
      | some v =>
          rw [hresult] at h
          exact Or.inr (Or.inr (Or.inl ⟨v, rfl, List.mem_singleton.1 h⟩))
  · cases herror : r.error with
    | none => rw [herror] at h; cases h
    | some e =>
        rw [herror] at h
        exact Or.inr (Or.inr (Or.inr ⟨e, rfl, List.mem_singleton.1 h⟩))

/-- The record of a legible response is legible. -/
theorem Response.Legible.toJson {r : Response} (h : r.Legible) : r.toJson.Legible := by
  refine legibleMembers_iff.2 fun m hm => ?_
  rcases Response.mem_members hm with rfl | rfl | ⟨v, hv, rfl⟩ | ⟨e, he, rfl⟩
  · exact trivial
  · exact r.id.legible_toJson
  · exact h.result v hv
  · exact Error.legible_toJson (h.data e he)

/-- The fields of an error are selected as they were written. -/
theorem Error.select?_tokens {e : Error} (h : e.toJson.depth < maxDepth - 1) :
    Error.select? (lexed e.toJson.tokens) = some e.toJson := by
  refine selectFields_tokens _ fun m hm => ?_
  have hd : m.2.depth < e.toJson.depth := depth_lt_of_mem hm
  refine ⟨?_, ofLexemes?_tokens (by omega)⟩
  rcases List.mem_append.1 hm with hm | hm
  · simp only [List.mem_cons, List.not_mem_nil, or_false] at hm
    rcases hm with rfl | rfl
    · exact (by decide : "code" ∈ Error.fields.names)
    · exact (by decide : "message" ∈ Error.fields.names)
  · cases hdata : e.data with
    | none => rw [hdata] at hm; cases hm
    | some v =>
        rw [hdata] at hm
        rw [List.mem_singleton.1 hm]
        exact (by decide : "data" ∈ Error.fields.names)

/-- The fields of a response are selected as they were written. -/
theorem Response.select?_tokens {r : Response} (h : r.toJson.depth < maxDepth) :
    Response.select? (lexed r.toJson.tokens) = some r.toJson := by
  refine selectFields_tokens _ fun m hm => ?_
  have hd : m.2.depth < r.toJson.depth := depth_lt_of_mem hm
  have hvalue : ofLexemes? (maxDepth - 1) (lexed m.2.tokens) = some m.2 :=
    ofLexemes?_tokens (by omega)
  rcases Response.mem_members hm with rfl | rfl | ⟨v, hv, rfl⟩ | ⟨e, he, rfl⟩
  · exact ⟨(by decide : "jsonrpc" ∈ Response.fields.names), hvalue⟩
  · exact ⟨(by decide : "id" ∈ Response.fields.names), hvalue⟩
  · exact ⟨(by decide : "result" ∈ Response.fields.names), hvalue⟩
  · have he' : e.toJson.depth < r.toJson.depth := hd
    exact ⟨(by decide : "error" ∈ Response.fields.names), Error.select?_tokens (by omega)⟩

/-- No response is written with a field twice. -/
theorem responseRepeats_toJson (r : Response) : responseRepeats r.toJson = false := by
  obtain ⟨jsonrpc, id, result, error⟩ := r
  cases result with
  | none =>
      cases error with
      | none => rfl
      | some e => obtain ⟨code, message, data⟩ := e; cases data <;> rfl
  | some v =>
      cases error with
      | none => rfl
      | some e => obtain ⟨code, message, data⟩ := e; cases data <;> rfl

/-- The line of a response is read from the tokens it was made of. -/
theorem Response.ofText?_tokens {r : Response} (h : r.Legible) :
    Response.ofText? r.text
      = (Response.select? (lexed r.toJson.tokens)).bind fun written =>
          if responseRepeats written then none
          else (Response.read written.canonical).toOption := by
  have hlexemes : lexemes r.text.toList = some (lexed r.toJson.tokens) := by
    rw [Response.text, Json.text, String.toList_ofList]
    exact lexemes_chars_of_legible h.toJson
  unfold Response.ofText?
  simp [hlexemes, isForm_tokens]

/-- The line of a response, read. -/
theorem Response.ofText?_text {r : Response} (hl : r.Legible)
    (hd : r.toJson.depth < maxDepth) : Response.ofText? r.text = some r.received := by
  rw [Response.ofText?_tokens hl, Response.select?_tokens hd, Option.bind_some,
    responseRepeats_toJson, Response.read_canonical]
  rfl

end ProviderLink.Rpc
