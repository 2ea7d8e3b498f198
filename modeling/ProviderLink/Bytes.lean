/-
Opaque data. Action inputs and outputs, subscription states and user
configuration are byte strings to everything but the code that owns
them, and may hold any bytes; text is the bytes of its UTF-8 form.
-/
namespace ProviderLink

/-- Opaque data. -/
abbrev Bytes := ByteArray

instance : DecidableEq Bytes := ByteArray.instDecidableEq

namespace Bytes

/-- The bytes in order. -/
def toList (b : Bytes) : List UInt8 := b.data.toList

def ofList (bs : List UInt8) : Bytes := ⟨bs.toArray⟩

/-- The text whose UTF-8 form the bytes are. -/
def text? (b : Bytes) : Option String := String.fromUTF8? b

theorem toList_ofList (bs : List UInt8) : toList (ofList bs) = bs := by
  simp [toList, ofList]

theorem ofList_toList (b : Bytes) : ofList (toList b) = b := by
  simp [toList, ofList]

theorem text?_toUTF8 (s : String) : text? s.toUTF8 = some s := by
  unfold text? String.fromUTF8?
  exact dif_pos s.isValidUTF8

end Bytes

end ProviderLink
