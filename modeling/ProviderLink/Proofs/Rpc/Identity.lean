/-
Which request a response names. A server takes the id of a line from its
request, if the line is one, and otherwise from whatever the line holds
under `id`. An object gives a record its fields by their names, so in an
object these are the same id, and it does not matter for it what else is
wrong with the line (`id_of_read`, `idOf_object`). An array gives them by
their places; there is no name to look for, and its id is known only if
it is a request as a whole.

What is said of ids here is said of values: a string or an integer of 64
bits comes back as it was written, and anything else as `null`
(`toJson_idRead`).
-/
import ProviderLink.Proofs.Json.Record
import ProviderLink.Proofs.Rpc.Respond

namespace ProviderLink.Rpc

open Json

-- ================================================================= ids

/-- What is sent back for an id: a string or an integer of the signed 64-bit range as it is, and
`null` for anything else or for nothing. -/
def namedBack : Option Json → Json
  | some (.string s) => .string s
  | some (.number (.int i fits)) =>
    if -0x8000000000000000 ≤ i ∧ i < 0x8000000000000000 then .number (.int i fits) else .null
  | _ => .null

/-- The id that is read of a value, or none. -/
def idRead (v : Json) : RequestId :=
  match RequestId.read v with
  | .ok id => id
  | .error _ => .null

/-- It is sent back as it was given. -/
theorem toJson_idRead (v : Json) : (idRead v).toJson = namedBack (some v) := by
  cases v with
  | number n =>
      cases n with
      | float x => rfl
      | int i fits =>
          unfold idRead
          rw [RequestId.read, namedBack]
          by_cases hrange : -0x8000000000000000 ≤ i ∧ i < 0x8000000000000000
          · have hsame : (Int64.ofInt i).toInt = i :=
              Int64.toInt_ofInt_of_le hrange.1 hrange.2
            rw [if_pos hrange, if_pos hrange]
            simp only [RequestId.toJson, Number.ofInt64, hsame]
          · rw [if_neg hrange, if_neg hrange]
            rfl
  | _ => rfl

theorem idRead_of_read {v : Json} {id : RequestId} (h : RequestId.read v = .ok id) :
    idRead v = id := by
  unfold idRead
  rw [h]

/-- What is no request is answered under what it holds by the name of the id. -/
theorem toJson_idOf (v : Json) : (Server.idOf v).toJson = namedBack (v.member? "id") := by
  cases hid : v.member? "id" with
  | none =>
      unfold Server.idOf
      rw [hid]
      rfl
  | some w =>
      have hsame : Server.idOf v = idRead w := by
        cases hread : RequestId.read w with
        | ok id => simp only [Server.idOf, idRead, hid, hread]
        | error fault => simp only [Server.idOf, idRead, hid, hread]
      rw [hsame, toJson_idRead]

/-- A request has the id that is read of the field of that name. -/
theorem id_of_read {v : Json} (hv : v.Ordered) {r : Request} (h : Request.read v = .ok r) :
    ∃ w, v.field? 1 "id" = some w ∧ RequestId.read w = .ok r.id := by
  obtain ⟨hform, hmake⟩ := Fields.read_eq_ok.1 h
  unfold Request.fields Fields.field Fields.optional at hmake
  rw [Fields.make?_andField (by simp) _ _ _ hv, Fields.make?_andField (by simp) _ _ _ hv,
    Fields.make?_andField (by simp) _ _ _ hv, Fields.make?_andField (by simp) _ _ _ hv,
    Fields.make?_pure _ _ hform] at hmake
  simp only [Fields.names_andField, Fields.names_pure, List.nil_append, List.cons_append,
    List.length_nil, List.length_cons, Option.bind_some, Option.bind_eq_some_iff,
    Option.map_eq_some_iff] at hmake
  obtain ⟨_, ⟨_, ⟨_, ⟨jsonrpc, -, rfl⟩, id, hid, rfl⟩, method, -, rfl⟩, params, -, rfl⟩ := hmake
  cases hfield : v.field? 1 "id" with
  | none =>
      rw [hfield] at hid
      cases hid
  | some w =>
      rw [hfield] at hid
      exact ⟨w, rfl, eq_ok_of_toOption hid⟩

-- =============================================================== lines

namespace Server

/-- The id under which a line is answered, as the line gives it. -/
def idIn (line : String) : Json :=
  match Json.ofText? line with
  | some (.object members) => namedBack (Dict.get? "id" members)
  | some (.array items) =>
    match Request.read (.array items) with
    | .ok _ => namedBack items[1]?
    | .error _ => .null
  | _ => .null

theorem toJson_id_of_read {v : Json} (hv : v.Ordered) {r : Request} (h : Request.read v = .ok r) :
    r.id.toJson = namedBack (v.field? 1 "id") := by
  obtain ⟨w, hfield, hread⟩ := id_of_read hv h
  rw [hfield, ← toJson_idRead, idRead_of_read hread]

variable {π : Type} [Provider π]

/-- Every line is answered under its id, with something that can be sent. -/
theorem exists_respond_line (s : Server π) (conn : Connection) (line : String) :
    ∃ id result, Sendable result ∧ (s.handleLine conn line).1 = respond id result
      ∧ id.toJson = idIn line := by
  unfold handleLine idIn
  cases hline : Json.ofText? line with
  | none => exact ⟨.null, .error _, Error.Plain.of_none rfl, rfl, rfl⟩
  | some v =>
      have hv : v.Ordered := by
        obtain ⟨w, -, rfl⟩ := Option.map_eq_some_iff.1 hline
        exact ordered_canonical w
      dsimp only
      cases hread : Request.read v with
      | error fault =>
          refine ⟨idOf v, .error _, Error.Plain.of_none rfl, rfl, ?_⟩
          rw [toJson_idOf]
          cases v with
          | array items =>
              dsimp only
              rw [hread]
              rfl
          | _ => rfl
      | ok r =>
          obtain ⟨result, hsendable, hresponse⟩ := s.exists_respond_request conn r
          refine ⟨r.id, result, hsendable, hresponse, ?_⟩
          rw [toJson_id_of_read hv hread]
          cases v with
          | object members => rfl
          | array items =>
              dsimp only
              rw [hread]
              rfl
          | _ => cases hread

/-- The record of a response, its members in order. -/
theorem exists_members_respond (id : RequestId) (result : Except Error Json) :
    ∃ members, (respond id result).toJson = .object members
      ∧ (Dict.keys members = ["jsonrpc", "id", "result"]
        ∨ Dict.keys members = ["jsonrpc", "id", "error"])
      ∧ Dict.get? "jsonrpc" members = some (.string "2.0")
      ∧ Dict.get? "id" members = some id.toJson := by
  cases result with
  | ok v => exact ⟨_, rfl, Or.inl rfl, rfl, rfl⟩
  | error e => exact ⟨_, rfl, Or.inr rfl, rfl, rfl⟩

/-- Whatever line a server is given and however far the connection and the provider have come, the
answer is the text of one object: of the version, an id, and a result or an error but not both.
The id is the one in the line. That is the `id` of an object if it is a string or an integer of 64
bits, whether or not anything else about the line is in order and whatever comes of it; of an array
that is a request it is the second item; and otherwise it is `null`. -/
theorem handleLine_identified (s : Server π) (conn : Connection) (line : String) :
    ∃ members, Json.said? (s.handleLine conn line).1.text = some (.object members)
      ∧ (Dict.keys members = ["jsonrpc", "id", "result"]
        ∨ Dict.keys members = ["jsonrpc", "id", "error"])
      ∧ Dict.get? "jsonrpc" members = some (.string "2.0")
      ∧ Dict.get? "id" members = some (idIn line) := by
  obtain ⟨id, result, hsendable, hresponse, hid⟩ := s.exists_respond_line conn line
  obtain ⟨members, hobject, hkeys, hversion, hmember⟩ := exists_members_respond id result
  refine ⟨members, ?_, hkeys, hversion, hid ▸ hmember⟩
  rw [hresponse, Response.text, said?_text (legible_respond id hsendable).toJson, hobject]

end Server

end ProviderLink.Rpc
