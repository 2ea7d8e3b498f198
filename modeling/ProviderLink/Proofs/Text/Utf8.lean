/-
The bytes of a text. UTF-8 writes an ASCII character as the byte of its
number and every other character with bytes from 128 up, so below 128 a
text and its bytes can be read off each other (`toNat_of_mem_encoded`).
That is all the library needs of the encoding besides that it reads
back: base64 texts are ASCII throughout, and the two bytes that end a
line belong to no other character.
-/
import ProviderLink.Bytes

namespace ProviderLink.Bytes

/-- The bytes of a text are those of its characters in order. -/
theorem toList_toUTF8 (s : String) :
    toList s.toUTF8 = s.toList.flatMap String.utf8EncodeChar := by
  have h : s.toUTF8 = s.toList.utf8Encode := String.utf8Encode_toList.symm
  rw [h]
  unfold toList List.utf8Encode
  simp

/-- An ASCII character is one byte. -/
theorem utf8EncodeChar_of_lt {c : Char} (h : c.toNat < 128) :
    String.utf8EncodeChar c = [UInt8.ofNat c.toNat] := by
  have hle : c.val.toNat ≤ 0x7f := Nat.le_of_lt_succ h
  simp only [String.utf8EncodeChar, if_pos hle]
  rfl

/-- A byte below 128 of a character's bytes is that character. -/
theorem toNat_of_mem_encoded {c : Char} {b : UInt8}
    (h : b ∈ String.utf8EncodeChar c) (hb : b.toNat < 128) :
    c.toNat = b.toNat := by
  have hv : c.toNat = c.val.toNat := rfl
  simp only [String.utf8EncodeChar] at h
  split at h
  case isTrue hc =>
    rw [List.mem_singleton.1 h, UInt8.toNat_ofNat', Nat.mod_eq_of_lt (by omega), hv]
  case isFalse =>
    -- every byte of a longer form has its highest bit set
    split at h
    · simp only [List.mem_cons, List.not_mem_nil, or_false] at h
      rcases h with rfl | rfl <;>
        (rw [UInt8.toNat_ofNat'] at hb; omega)
    · split at h
      · simp only [List.mem_cons, List.not_mem_nil, or_false] at h
        rcases h with rfl | rfl | rfl <;>
          (rw [UInt8.toNat_ofNat'] at hb; omega)
      · simp only [List.mem_cons, List.not_mem_nil, or_false] at h
        rcases h with rfl | rfl | rfl | rfl <;>
          (rw [UInt8.toNat_ofNat'] at hb; omega)

/-- A byte below 128 in a text is one of its characters. -/
theorem exists_char_of_mem_toUTF8 {s : String} {b : UInt8}
    (h : b ∈ toList s.toUTF8) (hb : b.toNat < 128) :
    ∃ c ∈ s.toList, c.toNat = b.toNat := by
  rw [toList_toUTF8, List.mem_flatMap] at h
  obtain ⟨c, hc, hmem⟩ := h
  exact ⟨c, hc, toNat_of_mem_encoded hmem hb⟩

/-- The character of an ASCII byte has the byte's number. -/
theorem toNat_ofNat_of_lt {n : Nat} (h : n < 128) : (Char.ofNat n).toNat = n := by
  have hv : n.isValidChar := Or.inl (by omega)
  unfold Char.ofNat
  rw [dif_pos hv]
  rfl

/-- The bytes of a text that is made of ASCII bytes. -/
theorem toList_toUTF8_ofList {bs : List UInt8} (h : ∀ b ∈ bs, b.toNat < 128) :
    toList (String.ofList (bs.map fun b => Char.ofNat b.toNat)).toUTF8 = bs := by
  rw [toList_toUTF8, String.toList_ofList]
  induction bs with
  | nil => rfl
  | cons b bs ih =>
      have hb : b.toNat < 128 := h b (List.mem_cons_self ..)
      have hc : (Char.ofNat b.toNat).toNat = b.toNat := toNat_ofNat_of_lt hb
      rw [List.map_cons, List.flatMap_cons, utf8EncodeChar_of_lt (by omega), hc,
        UInt8.ofNat_toNat, ih fun b' hb' => h b' (List.mem_cons_of_mem _ hb')]
      rfl

end ProviderLink.Bytes
