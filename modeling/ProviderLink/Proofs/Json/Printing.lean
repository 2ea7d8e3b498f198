/-
The text of a value holds no control character: a string escapes its
own, and everything else is written with marks that are none. So the
text is one line, and the text of an object is not a blank one, since it
begins with a brace.
-/
import ProviderLink.Json.Token
import ProviderLink.Proofs.Number.Printing
import ProviderLink.Proofs.Text.Line
import ProviderLink.Text.Character

namespace ProviderLink

/-- An escape of one character is no control character if that one is none. -/
theorem Token.le_of_mem_escape {c d : Char} (hc : 0x20 ≤ c.toNat) (h : d ∈ ['\\', c]) :
    0x20 ≤ d.toNat := by
  rcases List.mem_cons.1 h with rfl | h
  · decide
  · rw [List.mem_singleton.1 h]
    exact hc

/-- A character of a string is written without control characters. -/
theorem Token.le_of_mem_stringChar {c d : Char} (h : d ∈ stringChar c) :
    0x20 ≤ d.toNat := by
  have hdigit : ∀ n, n < 16 → 0x20 ≤ (Nat.digitChar n).toNat := by decide
  unfold stringChar at h
  split at h
  · exact le_of_mem_escape (by decide) h
  split at h
  · exact le_of_mem_escape (by decide) h
  split at h
  · exact le_of_mem_escape (by decide) h
  split at h
  · exact le_of_mem_escape (by decide) h
  split at h
  · exact le_of_mem_escape (by decide) h
  split at h
  · exact le_of_mem_escape (by decide) h
  split at h
  · exact le_of_mem_escape (by decide) h
  split at h
  · next hcontrol =>
    simp only [List.mem_cons, List.not_mem_nil, or_false] at h
    rcases h with rfl | rfl | rfl | rfl | rfl | rfl
    · decide
    · decide
    · decide
    · decide
    · exact hdigit _ (by omega)
    · exact hdigit _ (by omega)
  · next hcontrol =>
    rw [List.mem_singleton.1 h]
    omega

/-- A token is written without control characters. -/
theorem Token.le_of_mem_chars {t : Token} {c : Char} (h : c ∈ t.chars) : 0x20 ≤ c.toNat := by
  have hclosed : ∀ {cs : List Char}, cs.all (fun c => 0x20 ≤ c.toNat) = true →
      c ∈ cs → 0x20 ≤ c.toNat :=
    fun hcs hc => of_decide_eq_true (List.all_eq_true.1 hcs _ hc)
  cases t with
  | beginArray | endArray | beginObject | endObject | nameSeparator | valueSeparator | null =>
      exact hclosed rfl h
  | bool b =>
      cases b with
      | true => exact hclosed rfl h
      | false => exact hclosed rfl h
  | number n => exact (n.isMark_chars c h).le
  | string s =>
      rw [chars, stringChars] at h
      rcases List.mem_cons.1 h with rfl | h
      · decide
      · rcases List.mem_append.1 h with h | h
        · obtain ⟨d, -, hd⟩ := List.mem_flatMap.1 h
          exact le_of_mem_stringChar hd
        · rw [List.mem_singleton.1 h]
          decide

namespace Json

/-- The text of a value holds no control character. -/
theorem uncontrolled_text (v : Json) : Text.Uncontrolled v.text := by
  intro c hc
  rw [text, String.toList_ofList, chars] at hc
  obtain ⟨t, -, ht⟩ := List.mem_flatMap.1 hc
  exact t.le_of_mem_chars ht

theorem allBlank_text_object (members : List (String × Json)) :
    Text.allBlank (object members).text = false := by
  have hchars : (object members).chars
      = '\x7b' :: (memberTokens members ++ [Token.endObject]).flatMap Token.chars := by
    rw [chars, tokens]
    rfl
  rw [Text.allBlank, text, String.toList_ofList, hchars, List.all_cons]
  rfl

end Json

end ProviderLink
