/-
An input goes out and comes back. What was read from an input is a value
in the normal form of its schema: it satisfies the schema as it stands
and has nothing to be filled in, so writing it conforms it to itself, and
what reading the written text takes is only that the text is read at all.

An output comes back as well, but for one value: `null` conforms to every
type and is written under every type, and no bytes that say `null` are
taken as a value (`null_not_decoded`). Every other output is read under
its type as its normal form (`decodeValue_encodeOutput`).

In both the value that is written is the normal form of another, and has
nulls besides. They are written without a number, and into objects that
were there, so a text of the one is read back and nests below the bound
if a text of the other does (`ofBytes?_text_of_legible`). Of the text of the
other this has to be assumed, since a double need not read back from what
it is written as.
-/
import ProviderLink.Proofs.Codec
import ProviderLink.Proofs.Json.Nesting
import ProviderLink.Proofs.Json.Rereading
import ProviderLink.Proofs.Ordered
import ProviderLink.Proofs.Value.Normal

namespace ProviderLink.Codec

/-- The normal form of a legible value reads back from its text. -/
theorem ofBytes?_text_of_legible (type : ValueType) {v : Json} (hv : v.Ordered)
    (hd : v.depth < Json.maxDepth) (hl : v.Legible) :
    Json.ofBytes? (type.fill v).text.toUTF8 = some (type.fill v) :=
  (Json.ofBytes?_text_iff (type.ordered_fill hv)
    (Nat.lt_of_le_of_lt (type.depth_fill_le v) hd)).2 (type.legible_fill hl)

-- =============================================================== inputs

/-- Conforming a value of a schema in normal form leaves it as it is. -/
theorem conform_fill {s : ObjectSchema} (h : s.Ordered) {v : Json} (hv : v.Ordered)
    (hs : s.Satisfies v) :
    conform s.impliedType.toValueType (s.fill v) = .ok (s.fill v) := by
  have hordered := ObjectSchema.ordered_fill h hv
  have hsatisfies := ObjectSchema.satisfies_fill h hv hs
  obtain ⟨-, hfits, -⟩ := (ObjectSchema.satisfies_iff s h .root hordered).1 hsatisfies
  refine conform_eq_ok.2 ((ValueType.conformAt_eq_ok s.valueType
    (ObjectSchema.ordered_valueType h) hordered).2 ⟨hfits, ?_⟩)
  rw [ObjectSchema.fill_valueType s h hordered, ObjectSchema.fill_fill h hv]

/-- The normal form of a value reads back from its text if the value does. -/
theorem ofBytes?_text_fill {s : ObjectSchema} (h : s.Ordered) {v : Json} (hv : v.Ordered)
    (hd : v.depth < Json.maxDepth) (hreads : Json.ofBytes? v.text.toUTF8 = some v) :
    Json.ofBytes? (s.fill v).text.toUTF8 = some (s.fill v) := by
  rw [← ObjectSchema.fill_valueType s h hv]
  exact ofBytes?_text_of_legible _ hv hd ((Json.ofBytes?_text_iff hv hd).1 hreads)

/-- What was read from an input under a schema is written under the implied type, as it stands, and
is read again under the schema from what was written; if the value that was in the input reads back
from its own text. -/
theorem decodeInput_encodeOutput {s : ObjectSchema} (h : s.Ordered) {bytes : Bytes} {v : Json}
    (hdecode : decodeInput bytes s = .ok v)
    (hreads : ∀ raw, Json.ofBytes? bytes = some raw →
      Json.ofBytes? raw.text.toUTF8 = some raw) :
    encodeOutput v s.impliedType = .ok v.text.toUTF8 ∧ decodeInput v.text.toUTF8 s = .ok v := by
  obtain ⟨raw, hread, hsatisfies, rfl⟩ := (decodeInput_eq_ok h).1 hdecode
  have hordered := ordered_of_ofBytes? hread
  have hconform := conform_fill h hordered hsatisfies
  have hagain := ofBytes?_text_fill h hordered (Json.depth_lt_of_ofBytes? hread) (hreads raw hread)
  constructor
  · exact bind_eq_ok.2 ⟨_, hconform, rfl⟩
  · exact (decodeInput_eq_ok h).2 ⟨_, hagain, ObjectSchema.satisfies_fill h hordered hsatisfies,
      (ObjectSchema.fill_fill h hordered).symm⟩

/-- A payment with or without a note. -/
def noteSchema : ObjectSchema :=
  ⟨[("amount", ⟨"amount", .primitive .number, true⟩),
    ("note", ⟨"note", .object [("by", .primitive .string)], false⟩)], []⟩

def noteInput : Json :=
  .object [("amount", .number (.ofUInt32 7)), ("note", .object [])]

def noteValue : Json :=
  .object [("amount", .number (.ofUInt32 7)), ("note", .object [("by", .null)])]

theorem decodeInput_encodeOutput_note :
    noteSchema.Ordered ∧ decodeInput noteInput.text.toUTF8 noteSchema = .ok noteValue
      ∧ (∀ raw, Json.ofBytes? noteInput.text.toUTF8 = some raw →
          Json.ofBytes? raw.text.toUTF8 = some raw)
      ∧ encodeOutput noteValue noteSchema.impliedType = .ok noteValue.text.toUTF8
      ∧ decodeInput noteValue.text.toUTF8 noteSchema = .ok noteValue := by
  have hordered : noteSchema.Ordered := by
    simp only [noteSchema, ObjectSchema.Ordered, ObjectSchema.OrderedBlocks,
      List.forall_mem_cons, List.not_mem_nil, false_implies, implies_true, Descriptor.Ordered,
      Descriptor.OrderedFields]
    decide
  have hread : Json.ofBytes? noteInput.text.toUTF8 = some noteInput := by
    have hlegible : noteInput.Legible := ⟨Number.legible_int _ _, trivial, trivial⟩
    rw [Json.ofBytes?_text hlegible (by decide)]
    rfl
  have hdecode : decodeInput noteInput.text.toUTF8 noteSchema = .ok noteValue :=
    decodeInput_steps.2 ⟨noteInput, parse_eq_ok.2 ⟨hread, by decide⟩, rfl, rfl⟩
  have hreads : ∀ raw, Json.ofBytes? noteInput.text.toUTF8 = some raw →
      Json.ofBytes? raw.text.toUTF8 = some raw := by
    intro raw hraw
    cases hread.symm.trans hraw
    exact hread
  exact ⟨hordered, hdecode, hreads, decodeInput_encodeOutput hordered hdecode hreads⟩

-- ============================================================== outputs

theorem parse_null :
    parse Json.null.text.toUTF8 = .error (.schemaMismatch "input must not be null") := by
  have hread : Json.ofBytes? Json.null.text.toUTF8 = some .null :=
    Json.ofBytes?_text trivial (by decide)
  unfold parse
  rw [if_neg (by decide), hread]

/-- What was encoded under a type is read back under it as the normal form of the value, if each
number of the value reads back from its text; only `null`, which is encoded under every type, is
read under none. -/
theorem decodeValue_encodeOutput {t : Descriptor} (ht : t.Ordered) {v : Json} (hv : v.Ordered)
    (hd : v.depth < Json.maxDepth) (hl : v.Legible) {bytes : Bytes}
    (hencode : encodeOutput v t = .ok bytes) :
    (v ≠ .null → t.toValueType.conform v = .ok (t.toValueType.fill v) ∧
      decodeValue bytes t = .ok (t.toValueType.fill v)) ∧
    (v = .null →
      decodeValue bytes t = .error (.schemaMismatch "input must not be null")) := by
  obtain ⟨hfits, rfl⟩ := (encodeOutput_eq_ok ht hv).1 hencode
  constructor
  · intro hne
    have hread := ofBytes?_text_of_legible t.toValueType hv hd hl
    refine ⟨conform_eq_ok.1 ((conform_toValueType ht hv).2 ⟨hfits, rfl⟩), ?_⟩
    -- what is read is the filled value, which is of the type and lacks nothing
    refine (decodeValue_eq_ok ht).2 ⟨_, hread, fun hnull => hne (ValueType.fill_eq_null.1 hnull),
      ValueType.inhabits_fill _ hfits, (ValueType.fill_fill _ hv).symm⟩
  · rintro rfl
    rw [ValueType.fill_null, decodeValue, parse_null]
    rfl

/-- So not every output is read back. -/
theorem null_not_decoded :
    ¬∀ (t : Descriptor) (v : Json) (bytes : Bytes), t.Ordered → v.Ordered →
      v.depth < Json.maxDepth → v.Legible → encodeOutput v t = .ok bytes →
      ∃ n, t.toValueType.conform v = .ok n ∧ decodeValue bytes t = .ok n := by
  intro h
  obtain ⟨n, -, hdecode⟩ := h .dynamic .null Json.null.text.toUTF8 trivial trivial (by decide)
    trivial rfl
  rw [decodeValue, parse_null] at hdecode
  cases hdecode

/-- The type of results that name who doubled an amount. -/
def doubledType : Descriptor :=
  .object [("by", .object [("name", .primitive .string)]), ("doubled", .primitive .number)]

def doubledOutput : Json := .object [("by", .object []), ("doubled", .number (.ofUInt32 42))]

def doubledValue : Json :=
  .object [("by", .object [("name", .null)]), ("doubled", .number (.ofUInt32 42))]

theorem decodeValue_encodeOutput_doubled :
    doubledType.Ordered ∧ doubledOutput.Ordered ∧ doubledOutput.depth < Json.maxDepth ∧
      doubledOutput.Legible ∧
      encodeOutput doubledOutput doubledType = .ok doubledValue.text.toUTF8 ∧
      decodeValue doubledValue.text.toUTF8 doubledType = .ok doubledValue := by
  have htype : doubledType.Ordered := by decide
  have hordered : doubledOutput.Ordered := by decide
  have hdepth : doubledOutput.depth < Json.maxDepth := by decide
  have hlegible : doubledOutput.Legible := ⟨trivial, Number.legible_int _ _, trivial⟩
  have hencode : encodeOutput doubledOutput doubledType = .ok doubledValue.text.toUTF8 := rfl
  have hne : doubledOutput ≠ .null := fun h => by cases h
  obtain ⟨-, hdecode⟩ :=
    (decodeValue_encodeOutput htype hordered hdepth hlegible hencode).1 hne
  exact ⟨htype, hordered, hdepth, hlegible, hencode, hdecode⟩

end ProviderLink.Codec
