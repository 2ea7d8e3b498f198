/-
The records of arguments and results read back. Each is a flat record of
texts and bytes, so its law follows from the one on fields; the
configuration that `init` hands over is the one table among them, and
reads back where it is in key order.
-/
import ProviderLink.Proofs.Schema.Record
import ProviderLink.Rpc.Handshake
import ProviderLink.Rpc.Params

namespace ProviderLink

open Json

attribute [local simp] Fields.field Fields.optional Fields.given Dict.get?_cons

/-- The runner's addresses read back. -/
@[simp] theorem GlobalConfig.read_canonical (g : GlobalConfig) :
    GlobalConfig.read g.toJson.canonical = .ok g := by
  apply eq_ok_of_toOption
  simp [GlobalConfig.read, GlobalConfig.toJson]

/-- What a provider reports reads back. -/
theorem ProviderConfig.read_canonical (c : ProviderConfig) :
    ProviderConfig.read c.toJson.canonical = .ok c := by
  apply eq_ok_of_toOption
  simp [ProviderConfig.read, ProviderConfig.toJson]

namespace Rpc

-- =============================================================== bytes

@[simp] theorem canonical_bytesJson (b : Bytes) : (bytesJson b).canonical = bytesJson b :=
  canonical_string _

@[simp] theorem readBytes_bytesJson (b : Bytes) : readBytes (bytesJson b) = .ok b :=
  readBytes_encode b

/-- The texts of a table of bytes are decoded one by one. -/
theorem decodeTexts_encode (d : Dict String Bytes) :
    decodeTexts (Dict.mapValues Base64.encode d) = .ok d := by
  induction d with
  | nil => rfl
  | cons e d ih =>
      have hcons : Dict.mapValues Base64.encode (e :: d)
          = (e.1, Base64.encode e.2) :: Dict.mapValues Base64.encode d := rfl
      rw [hcons, decodeTexts, Base64.decode_encode, ih]
      rfl

/-- A table of bytes in key order reads back. -/
theorem readBytesDict_canonical {d : Dict String Bytes} (h : Dict.Sorted d) :
    readBytesDict (object (Dict.mapValues bytesJson d)).canonical = .ok d := by
  have htexts : readDict readString (object (Dict.mapValues bytesJson d)).canonical
      = .ok (Dict.mapValues Base64.encode d) := by
    rw [canonical_mapValues bytesJson h, readDict]
    refine readMembers_map fun e _ => ?_
    rw [canonical_bytesJson]
    rfl
  have hread : readBytesDict (object (Dict.mapValues bytesJson d)).canonical
      = (readDict readString (object (Dict.mapValues bytesJson d)).canonical).bind
          decodeTexts := rfl
  rw [hread, htexts]
  exact decodeTexts_encode d

-- ============================================================== params

/-- What `init` hands over reads back. -/
theorem readInit_canonical {r : RunnerData} (h : Dict.Sorted r.userConfig) :
    readInit (initJson r).canonical = .ok r := by
  apply eq_ok_of_toOption
  simp [readInit, initJson, readBytesDict_canonical h]

theorem legible_initJson (r : RunnerData) : (initJson r).Legible := by
  refine ⟨⟨trivial, trivial, trivial⟩, ?_, trivial⟩
  refine legibleMembers_iff.2 fun e he => ?_
  obtain ⟨a, -, rfl⟩ := List.mem_map.1 he
  exact trivial

theorem depth_initJson_le (r : RunnerData) : (initJson r).depth ≤ 2 := by
  have htable : depthMembers (Dict.mapValues bytesJson r.userConfig) ≤ 0 := by
    refine depthMembers_le.2 fun e he => ?_
    obtain ⟨a, -, rfl⟩ := List.mem_map.1 he
    exact Nat.le_refl 0
  simp only [initJson, GlobalConfig.toJson, depth, depthMembers]
  omega

/-- The arguments of an evaluation read back. -/
theorem ActionEvalParams.read_canonical (p : ActionEvalParams) :
    ActionEvalParams.read p.toJson.canonical = .ok p := by
  apply eq_ok_of_toOption
  simp [ActionEvalParams.read, ActionEvalParams.toJson]

@[simp] theorem readOption_string (s : String) :
    readOption readString (string s) = .ok (some s) := rfl

@[simp] theorem readOption_bytesJson (b : Bytes) :
    readOption readBytes (bytesJson b) = .ok (some b) := by
  rw [readOption_of_ne_null (by exact fun h => by cases h), readBytes_bytesJson]
  rfl

/-- The arguments of a subscription call read back, whichever are there. -/
theorem SubscriptionParams.read_canonical (p : SubscriptionParams) :
    SubscriptionParams.read p.toJson.canonical = .ok p := by
  obtain ⟨contextId, subscriptionId, input⟩ := p
  apply eq_ok_of_toOption
  cases subscriptionId with
  | none => cases input <;> simp [SubscriptionParams.read, SubscriptionParams.toJson, memberIf]
  | some id => cases input <;> simp [SubscriptionParams.read, SubscriptionParams.toJson, memberIf]

/-- A name reads back. -/
theorem readName_canonical (name : String) :
    readName (nameJson name).canonical = .ok name := by
  apply eq_ok_of_toOption
  simp [readName, nameJson]

/-- An event's payload reads back. -/
theorem readPayload_canonical (payload : Bytes) :
    readPayload (payloadJson payload).canonical = .ok payload := by
  apply eq_ok_of_toOption
  simp [readPayload, payloadJson]

/-- Resulting bytes read back. -/
theorem readData_canonical (bytes : Bytes) :
    readData (dataJson bytes).canonical = .ok bytes := by
  apply eq_ok_of_toOption
  simp [readData, dataJson]

-- =========================================================== handshake

/-- A handshake reads back. -/
theorem HandshakeParams.read_canonical (p : HandshakeParams) :
    HandshakeParams.read p.toJson.canonical = .ok p := by
  apply eq_ok_of_toOption
  simp [HandshakeParams.read, HandshakeParams.toJson]

theorem HandshakeParams.legible_toJson (p : HandshakeParams) : p.toJson.Legible :=
  ⟨Number.legible_int p.protocolVersion.toNat _, trivial, trivial, trivial⟩

theorem HandshakeParams.depth_toJson (p : HandshakeParams) : p.toJson.depth = 1 := rfl

/-- The answer to a handshake reads back. -/
theorem HandshakeResult.read_canonical (r : HandshakeResult) :
    HandshakeResult.read r.toJson.canonical = .ok r := by
  apply eq_ok_of_toOption
  simp [HandshakeResult.read, HandshakeResult.toJson]

theorem HandshakeResult.legible_toJson (r : HandshakeResult) : r.toJson.Legible :=
  ⟨Number.legible_int r.protocolVersion.toNat _, trivial⟩

theorem HandshakeResult.depth_toJson (r : HandshakeResult) : r.toJson.depth = 1 := rfl

end Rpc

end ProviderLink
