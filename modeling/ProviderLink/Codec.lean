/-
Values in transport. Bytes come in as JSON text and are held to a type,
or to the type a schema implies and then to what it requires; values go
out as the compact text of their normal form. Empty input and `null` are
no input. Whatever fails here is a `schemaMismatch`.
-/
import ProviderLink.Bytes
import ProviderLink.Json.Parser
import ProviderLink.ProviderError
import ProviderLink.Schema.Presence

namespace ProviderLink.Codec

/-- The value of input bytes. What is wrong with a text is in the reader's own words, for which
`Json.complaint` stands. -/
def parse (bytes : Bytes) : Outcome Json :=
  if bytes.size = 0 then .error (.schemaMismatch "input must not be empty")
  else match Json.ofBytes? bytes with
  | none => .error (.schemaMismatch ("input is not valid JSON: " ++ Json.complaint))
  | some .null => .error (.schemaMismatch "input must not be null")
  | some v => .ok v

/-- A value in the normal form of a type. -/
def conform (type : ValueType) (v : Json) : Outcome Json :=
  match type.conform v with
  | .ok v => .ok v
  | .error mismatch => .error (.schemaMismatch mismatch.message)

/-- A value that has all a schema requires. -/
def checkRequired (schema : ObjectSchema) (v : Json) : Outcome Unit :=
  match schema.checkRequired v with
  | .ok () => .ok ()
  | .error absence => .error (.schemaMismatch absence.message)

/-- Input bytes as the object that a schema describes, with `null` for what is left out. -/
def decodeInput (bytes : Bytes) (schema : ObjectSchema) : Outcome Json := do
  let raw ← parse bytes
  let v ← conform schema.impliedType.toValueType raw
  checkRequired schema v
  return v

def decodeValue (bytes : Bytes) (type : Descriptor) : Outcome Json := do
  let raw ← parse bytes
  conform type.toValueType raw

/-- The bytes of a value of a type. -/
def encodeOutput (v : Json) (type : Descriptor) : Outcome Bytes := do
  let v ← conform type.toValueType v
  return v.text.toUTF8

end ProviderLink.Codec
