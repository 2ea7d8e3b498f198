/-
What reading an input comes to. The bytes go through a reader of texts,
a check against the implied type and a check of what is required;
`decodeInput_iff_satisfies` leaves only the first of these and one
recursion over the schema. Whatever goes wrong on the way goes wrong in
one manner, and the last check is never shown anything but an object.

All of it rests on one property of the reader: what it delivers is
ordered, so that lookups tell all there is to tell about a value
(`ordered_of_ofBytes?`).
-/
import ProviderLink.Codec
import ProviderLink.Proofs.Json.Parsing
import ProviderLink.Proofs.Schema.Satisfies

namespace ProviderLink.Codec

-- =============================================================== bytes

/-- A value read from a text is ordered. -/
theorem ordered_of_ofBytes? {bytes : Bytes} {v : Json}
    (h : Json.ofBytes? bytes = some v) : v.Ordered := by
  obtain ⟨s, -, htext⟩ := Option.bind_eq_some_iff.1 h
  obtain ⟨w, -, rfl⟩ := Option.map_eq_some_iff.1 htext
  exact Json.ordered_canonical w

/-- No bytes are no text of a value. -/
theorem ofBytes?_of_size {bytes : Bytes} (h : bytes.size = 0) :
    Json.ofBytes? bytes = none := by
  have hempty : bytes = ByteArray.empty := ByteArray.size_eq_zero_iff.1 h
  rw [hempty]
  rfl

/-- A value is parsed if it is in the bytes and not `null`. -/
theorem parse_eq_ok {bytes : Bytes} {v : Json} :
    parse bytes = .ok v ↔ Json.ofBytes? bytes = some v ∧ v ≠ .null := by
  unfold parse
  split
  case isTrue hsize =>
    rw [ofBytes?_of_size hsize]
    exact iff_of_false nofun fun h => nomatch h.1
  case isFalse =>
    cases Json.ofBytes? bytes with
    | none => exact iff_of_false nofun fun h => nomatch h.1
    | some w =>
        cases w with
        | null => exact iff_of_false nofun fun ⟨h, hne⟩ => hne (Option.some.inj h).symm
        | _ =>
            constructor
            · intro h
              cases h
              exact ⟨rfl, nofun⟩
            · rintro ⟨h, -⟩
              cases h
              rfl

/-- The text of a value is parsed as that value. -/
theorem parse_text {v : Json} (h : v.Legible) (hd : v.depth < Json.maxDepth)
    (hne : v.canonical ≠ .null) : parse v.text.toUTF8 = .ok v.canonical :=
  parse_eq_ok.2 ⟨Json.ofBytes?_text h hd, hne⟩

-- ============================================================== steps

theorem conform_eq_ok {type : ValueType} {v n : Json} :
    conform type v = .ok n ↔ type.conform v = .ok n := by
  unfold conform
  cases type.conform v with
  | ok w => exact ⟨fun h => by cases h; rfl, fun h => by cases h; rfl⟩
  | error mismatch => exact iff_of_false nofun nofun

theorem checkRequired_eq_ok {s : ObjectSchema} {v : Json} :
    checkRequired s v = .ok () ↔ s.checkRequired v = .ok () := by
  unfold checkRequired
  cases s.checkRequired v with
  | ok => exact iff_of_true rfl rfl
  | error absence => exact iff_of_false nofun nofun

/-- Conforming to the type of a descriptor gives the filled form of a value of it. -/
theorem conform_toValueType {t : Descriptor} (ht : t.Ordered) {v n : Json} (hv : v.Ordered) :
    conform t.toValueType v = .ok n ↔ t.toValueType.Inhabits v ∧ n = t.toValueType.fill v :=
  conform_eq_ok.trans <|
    ValueType.conformAt_eq_ok t.toValueType (Descriptor.ordered_toValueType t ht) hv

/-- A value is encoded if it is of the type, and then as the text of its filled form. -/
theorem encodeOutput_eq_ok {t : Descriptor} (ht : t.Ordered) {v : Json} (hv : v.Ordered)
    {bytes : Bytes} :
    encodeOutput v t = .ok bytes ↔
      t.toValueType.Inhabits v ∧ bytes = (t.toValueType.fill v).text.toUTF8 := by
  constructor
  · intro h
    obtain ⟨n, hconform, htext⟩ := bind_eq_ok.1 h
    obtain ⟨hfits, rfl⟩ := (conform_toValueType ht hv).1 hconform
    exact ⟨hfits, (Except.ok.inj htext).symm⟩
  · rintro ⟨hfits, rfl⟩
    exact bind_eq_ok.2 ⟨_, (conform_toValueType ht hv).2 ⟨hfits, rfl⟩, rfl⟩

/-- Bytes are decoded if what they say is of the type and not `null`. -/
theorem decodeValue_eq_ok {t : Descriptor} (ht : t.Ordered) {bytes : Bytes} {n : Json} :
    decodeValue bytes t = .ok n ↔ ∃ v, Json.ofBytes? bytes = some v ∧ v ≠ .null ∧
      t.toValueType.Inhabits v ∧ n = t.toValueType.fill v := by
  unfold decodeValue
  rw [bind_eq_ok]
  refine exists_congr fun v => ?_
  rw [parse_eq_ok, and_assoc]
  exact and_congr_right fun hread => and_congr_right fun _ =>
    conform_toValueType ht (ordered_of_ofBytes? hread)

/-- Conforming what was parsed gives the filled form of a value of the type. -/
theorem conform_valueType {s : ObjectSchema} (h : s.Ordered) {bytes : Bytes} {raw v : Json}
    (hparse : parse bytes = .ok raw) :
    conform s.impliedType.toValueType raw = .ok v ↔
      s.valueType.Inhabits raw ∧ v = s.valueType.fill raw :=
  conform_toValueType (ObjectSchema.ordered_impliedType s h)
    (ordered_of_ofBytes? (parse_eq_ok.1 hparse).1)

/-- A failure of any step is a mismatch. -/
theorem exists_mismatch_of_decodeInput {bytes : Bytes} {s : ObjectSchema}
    {e : ProviderError} (h : decodeInput bytes s = .error e) :
    ∃ detail, e = .schemaMismatch detail := by
  have hparse : parse bytes = .error e → ∃ detail, e = .schemaMismatch detail := by
    intro h
    unfold parse at h
    split at h
    · cases h
      exact ⟨_, rfl⟩
    · split at h <;> cases h <;> exact ⟨_, rfl⟩
  have hconform : ∀ raw, conform s.impliedType.toValueType raw = .error e →
      ∃ detail, e = .schemaMismatch detail := by
    intro raw h
    unfold conform at h
    split at h <;> cases h
    exact ⟨_, rfl⟩
  have hcheck : ∀ v, checkRequired s v = .error e → ∃ detail, e = .schemaMismatch detail := by
    intro v h
    unfold checkRequired at h
    split at h <;> cases h
    exact ⟨_, rfl⟩
  rcases bind_eq_error.1 h with h | ⟨raw, -, h⟩
  · exact hparse h
  · rcases bind_eq_error.1 h with h | ⟨v, -, h⟩
    · exact hconform raw h
    · rcases bind_eq_error.1 h with h | ⟨_, -, h⟩
      · exact hcheck v h
      · cases h

/-- What an input comes to once it is parsed. -/
def decodeParsed (s : ObjectSchema) (raw : Json) : Outcome Json := do
  let v ← conform s.impliedType.toValueType raw
  checkRequired s v
  return v

theorem decodeInput_eq_parse (bytes : Bytes) (s : ObjectSchema) :
    decodeInput bytes s = parse bytes >>= decodeParsed s := rfl

theorem decodeParsed_steps {s : ObjectSchema} {raw n : Json} :
    decodeParsed s raw = .ok n ↔
      conform s.impliedType.toValueType raw = .ok n ∧ s.checkRequired n = .ok () := by
  constructor
  · intro h
    obtain ⟨v, hconform, h⟩ := bind_eq_ok.1 h
    obtain ⟨hcheck, hn⟩ := check_bind_eq_ok.1 h
    cases hn
    exact ⟨hconform, checkRequired_eq_ok.1 hcheck⟩
  · rintro ⟨hconform, hcheck⟩
    exact bind_eq_ok.2 ⟨n, hconform, check_bind_eq_ok.2 ⟨checkRequired_eq_ok.2 hcheck, rfl⟩⟩

/-- The three steps. -/
theorem decodeInput_steps {bytes : Bytes} {s : ObjectSchema} {n : Json} :
    decodeInput bytes s = .ok n ↔ ∃ raw, parse bytes = .ok raw ∧
      conform s.impliedType.toValueType raw = .ok n ∧ s.checkRequired n = .ok () := by
  rw [decodeInput_eq_parse, bind_eq_ok]
  exact exists_congr fun _ => and_congr_right fun _ => decodeParsed_steps

/-- A value is taken if it satisfies the schema, with `null` for what it leaves out. -/
theorem decodeParsed_eq_ok {s : ObjectSchema} (h : s.Ordered) {v n : Json} (hv : v.Ordered) :
    decodeParsed s v = .ok n ↔ s.Satisfies v ∧ n = s.fill v := by
  have hconform : conform s.impliedType.toValueType v = .ok n ↔
      s.valueType.Inhabits v ∧ n = s.valueType.fill v :=
    conform_toValueType (ObjectSchema.ordered_impliedType s h) hv
  rw [decodeParsed_steps, hconform, ObjectSchema.satisfies_iff s h .root hv,
    ← ObjectSchema.fill_valueType s h hv]
  constructor
  · rintro ⟨⟨hfits, rfl⟩, hcheck⟩
    refine ⟨⟨?_, hfits, hcheck⟩, rfl⟩
    -- `null` is of every type, and is no object when it is asked for what it has
    rintro rfl
    obtain ⟨attributes, blocks⟩ := s
    cases hcheck
  · rintro ⟨⟨-, hfits, hcheck⟩, rfl⟩
    exact ⟨⟨hfits, rfl⟩, hcheck⟩

/-- An input is what its text says, if that satisfies the schema, with
`null` for what the text leaves out. -/
theorem decodeInput_eq_ok {s : ObjectSchema} (h : s.Ordered) {bytes : Bytes} {n : Json} :
    decodeInput bytes s = .ok n ↔
      ∃ v, Json.ofBytes? bytes = some v ∧ s.Satisfies v ∧ n = s.fill v := by
  rw [decodeInput_eq_parse, bind_eq_ok]
  refine exists_congr fun v => ?_
  rw [parse_eq_ok, and_assoc]
  refine and_congr_right fun hread => ?_
  rw [decodeParsed_eq_ok h (ordered_of_ofBytes? hread)]
  exact and_iff_right_of_imp fun hv => by
    rintro rfl
    cases hv.1

/-- An input is read by one recursion over the schema: it is what its text
says, if that satisfies the schema, with `null` for what the text leaves
out; whatever fails is a mismatch; and what is checked for what the
schema requires is an object, as is every block in it that is checked. -/
theorem decodeInput_iff_satisfies {s : ObjectSchema} (h : s.Ordered) (bytes : Bytes) :
    (∀ n, decodeInput bytes s = .ok n ↔
      ∃ v, Json.ofBytes? bytes = some v ∧ s.Satisfies v ∧ n = s.fill v) ∧
    (∀ e, decodeInput bytes s = .error e → ∃ detail, e = .schemaMismatch detail) ∧
    ∀ raw v, parse bytes = .ok raw → conform s.impliedType.toValueType raw = .ok v →
      (∃ members, v = .object members) ∧
      ∀ absence, s.checkRequired v = .error absence → absence.missing ≠ .object := by
  refine ⟨fun n => decodeInput_eq_ok h, fun e => exists_mismatch_of_decodeInput,
    fun raw v hparse hconform => ?_⟩
  obtain ⟨hread, hne⟩ := parse_eq_ok.1 hparse
  obtain ⟨hfits, rfl⟩ := (conform_valueType h hparse).1 hconform
  refine ⟨?_, fun absence => ObjectSchema.missing_ne_object s h hne hfits⟩
  rw [ObjectSchema.valueType_eq] at hfits ⊢
  cases hfits with
  | null => exact absurd rfl hne
  | object => exact ⟨_, rfl⟩

/-- A payment. Its target is a block; the attribute of that name is shadowed, but asks for
presence all the same. -/
def demoSchema : ObjectSchema :=
  ⟨[("amount", ⟨"amount", .primitive .number, true⟩),
    ("note", ⟨"note", .object [("by", .primitive .string)], false⟩),
    ("target", ⟨"target", .primitive .bool, true⟩)],
   [("target", ⟨"target",
      ⟨[("label", ⟨"label", .dynamic, false⟩),
        ("urls", ⟨"urls", .list (some (.primitive .string)), true⟩)], []⟩, false⟩)]⟩

def demoInput : Json :=
  .object [("amount", .number (.int 7 (by decide))), ("note", .object []),
    ("target", .object [("urls", .array [.string "a", .null])])]

def demoValue : Json :=
  .object [("amount", .number (.int 7 (by decide))), ("note", .object [("by", .null)]),
    ("target", .object [("label", .null), ("urls", .array [.string "a", .null])])]

theorem decodeInput_demo :
    demoSchema.Ordered ∧ decodeInput demoInput.text.toUTF8 demoSchema = .ok demoValue ∧
      ∃ v, Json.ofBytes? demoInput.text.toUTF8 = some v ∧ demoSchema.Satisfies v ∧
        demoValue = demoSchema.fill v := by
  have hordered : demoSchema.Ordered := by
    simp only [demoSchema, ObjectSchema.Ordered, ObjectSchema.OrderedBlocks,
      List.forall_mem_cons, List.not_mem_nil, false_implies, implies_true, Descriptor.Ordered,
      Descriptor.OrderedFields]
    decide
  have hread : Json.ofBytes? demoInput.text.toUTF8 = some demoInput := by
    have hlegible : demoInput.Legible := by
      simp [demoInput, Json.Legible, Json.LegibleMembers, Json.LegibleItems, Number.legible_int]
    rw [Json.ofBytes?_text hlegible (by decide)]
    rfl
  have hdecode : decodeInput demoInput.text.toUTF8 demoSchema = .ok demoValue :=
    decodeInput_steps.2 ⟨demoInput, parse_eq_ok.2 ⟨hread, by decide⟩, rfl, rfl⟩
  exact ⟨hordered, hdecode, ((decodeInput_iff_satisfies hordered _).1 _).1 hdecode⟩

end ProviderLink.Codec
