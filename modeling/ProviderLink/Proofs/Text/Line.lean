/-
Lines come out of a stream as they went in. A text without control
characters is one line of bytes: the newline put behind it is the only
one there, so splitting cuts there (`splitLines_line`), and no carriage
return stands before it that would be taken for part of the end
(`dropReturn_toUTF8`). So it is with any number of them
(`splitLines_lines`).

Bytes may come in pieces: what is left of one is put in front of the
next, and the lines are those of all the bytes (`splitLines_append`).
-/
import ProviderLink.Proofs.Text.Utf8
import ProviderLink.Text.Line

namespace ProviderLink.Text

/-- A text without control characters. -/
def Uncontrolled (s : String) : Prop := ∀ c ∈ s.toList, 0x20 ≤ c.toNat

def lineBytes (s : String) : List UInt8 := Bytes.toList s.toUTF8 ++ [newline]

/-- A newline completes an empty line. -/
theorem splitLines_newline (bytes : List UInt8) :
    splitLines (newline :: bytes) = ([] :: (splitLines bytes).1, (splitLines bytes).2) := by
  rw [splitLines]
  exact if_pos rfl

/-- Any other byte belongs to what is left over, if no line is complete. -/
theorem splitLines_cons_rest {b : UInt8} {bytes rest : List UInt8} (hb : b ≠ newline)
    (h : splitLines bytes = ([], rest)) : splitLines (b :: bytes) = ([], b :: rest) := by
  rw [splitLines, h]
  exact if_neg hb

/-- Otherwise it belongs to the first line. -/
theorem splitLines_cons_line {b : UInt8} {bytes line rest : List UInt8}
    {lines : List (List UInt8)} (hb : b ≠ newline)
    (h : splitLines bytes = (line :: lines, rest)) :
    splitLines (b :: bytes) = ((b :: line) :: lines, rest) := by
  rw [splitLines, h]
  exact if_neg hb

/-- Splitting cuts at the first newline. -/
theorem splitLines_cut {line : List UInt8} (h : newline ∉ line) (rest : List UInt8) :
    splitLines (line ++ newline :: rest)
      = (line :: (splitLines rest).1, (splitLines rest).2) := by
  induction line with
  | nil => exact splitLines_newline rest
  | cons b line ih =>
      have hb : b ≠ newline := fun heq => h (heq ▸ List.mem_cons_self ..)
      exact splitLines_cons_line hb (ih fun hm => h (List.mem_cons_of_mem _ hm))

/-- There is no control character among the bytes of a text without one. -/
theorem Uncontrolled.le_byte {s : String} (h : Uncontrolled s) :
    ∀ b ∈ Bytes.toList s.toUTF8, 0x20 ≤ b.toNat := by
  intro b hb
  by_cases hlt : b.toNat < 128
  · obtain ⟨c, hc, heq⟩ := Bytes.exists_char_of_mem_toUTF8 hb hlt
    have hle := h c hc
    omega
  · omega

/-- The bytes of a line are one line. -/
theorem splitLines_line {s : String} (h : Uncontrolled s) (rest : List UInt8) :
    splitLines (lineBytes s ++ rest)
      = (Bytes.toList s.toUTF8 :: (splitLines rest).1, (splitLines rest).2) := by
  have hnewline : newline ∉ Bytes.toList s.toUTF8 := fun hmem =>
    absurd (h.le_byte _ hmem) (by decide)
  rw [lineBytes, List.append_assoc, List.singleton_append, splitLines_cut hnewline]

/-- The bytes of a line are nothing else. -/
theorem splitLines_lineBytes {s : String} (h : Uncontrolled s) :
    splitLines (lineBytes s) = ([Bytes.toList s.toUTF8], []) := by
  have hnil := splitLines_line h []
  rwa [List.append_nil] at hnil

/-- No carriage return is taken off its end. -/
theorem dropReturn_toUTF8 {s : String} (h : Uncontrolled s) :
    dropReturn (Bytes.toList s.toUTF8) = Bytes.toList s.toUTF8 :=
  if_neg fun hlast => absurd (h.le_byte _ (List.mem_of_getLast? hlast)) (by decide)

/-- A line is read as the text it was made of. -/
theorem lineText?_toUTF8 {s : String} (h : Uncontrolled s) :
    lineText? (Bytes.toList s.toUTF8) = some s := by
  rw [lineText?, dropReturn_toUTF8 h, Bytes.ofList_toList, Bytes.text?_toUTF8]

/-- The bytes of lines are these lines and nothing else. -/
theorem splitLines_lines {texts : List String} (h : ∀ text ∈ texts, Uncontrolled text) :
    splitLines (texts.flatMap lineBytes)
      = (texts.map fun text => Bytes.toList text.toUTF8, []) := by
  induction texts with
  | nil => rfl
  | cons text texts ih =>
      rw [List.forall_mem_cons] at h
      rw [List.flatMap_cons, splitLines_line h.1, ih h.2]
      rfl

/-- Lines are read as the texts they were made of. -/
theorem map_lineText?_toUTF8 {texts : List String} (h : ∀ text ∈ texts, Uncontrolled text) :
    (texts.map fun text => Bytes.toList text.toUTF8).map lineText? = texts.map some := by
  rw [List.map_map]
  exact List.map_congr_left fun text hmem => lineText?_toUTF8 (h text hmem)

-- ============================================================== pieces

/-- Splitting goes on with what was left over. -/
theorem splitLines_append (bytes more : List UInt8) :
    splitLines (bytes ++ more)
      = ((splitLines bytes).1 ++ (splitLines ((splitLines bytes).2 ++ more)).1,
          (splitLines ((splitLines bytes).2 ++ more)).2) := by
  induction bytes with
  | nil => rfl
  | cons b bytes ih =>
      by_cases hb : b = newline
      · subst hb
        rw [List.cons_append, splitLines_newline, splitLines_newline, ih]
        rfl
      · rcases hsplit : splitLines bytes with ⟨lines, rest⟩
        rw [hsplit] at ih
        cases lines with
        | cons line lines =>
            rw [splitLines_cons_line hb hsplit]
            exact splitLines_cons_line hb ih
        | nil =>
            rw [splitLines_cons_rest hb hsplit]
            -- the byte goes where the bytes go that were left over with it
            rcases hmore : splitLines (rest ++ more) with ⟨lines, rest⟩
            rw [hmore] at ih
            cases lines with
            | nil =>
                rw [List.cons_append, List.cons_append, splitLines_cons_rest hb ih,
                  splitLines_cons_rest hb hmore]
                rfl
            | cons line lines =>
                rw [List.cons_append, List.cons_append, splitLines_cons_line hb ih,
                  splitLines_cons_line hb hmore]
                rfl

/-- What is left over is no complete line. -/
theorem newline_notMem_rest (bytes : List UInt8) : newline ∉ (splitLines bytes).2 := by
  induction bytes with
  | nil => exact List.not_mem_nil
  | cons b bytes ih =>
      by_cases hb : b = newline
      · subst hb
        rw [splitLines_newline]
        exact ih
      · rcases hsplit : splitLines bytes with ⟨lines, rest⟩
        rw [hsplit] at ih
        cases lines with
        | nil =>
            rw [splitLines_cons_rest hb hsplit, List.mem_cons, not_or]
            exact ⟨Ne.symm hb, ih⟩
        | cons line lines =>
            rw [splitLines_cons_line hb hsplit]
            exact ih

/-- What is no complete line is left over. -/
theorem splitLines_rest {rest : List UInt8} (h : newline ∉ rest) :
    splitLines rest = ([], rest) := by
  induction rest with
  | nil => rfl
  | cons b rest ih =>
      have hb : b ≠ newline := fun heq => h (heq ▸ List.mem_cons_self ..)
      exact splitLines_cons_rest hb (ih fun hmem => h (List.mem_cons_of_mem _ hmem))

end ProviderLink.Text
