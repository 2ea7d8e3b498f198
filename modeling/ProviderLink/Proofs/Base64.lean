/-
Base64 reads back what it writes: `decode (encode bytes) = bytes`, for
every byte string, the empty one included.

Both sides go in groups, three bytes against four symbols, but not in
the same places: reading treats the last group apart even when it is
full, since only there may padding stand. So the law for a full group is
stated twice, once for symbols with more behind them (`decodeFrom_group`)
and once for the last four (`decodeLast_full`), and the two short groups
are cases of the last one. What a group carries is the same arithmetic
throughout: a byte is put together from the bits its symbols took.
-/
import ProviderLink.Base64
import ProviderLink.Proofs.Text.Utf8

namespace ProviderLink.Base64

-- ============================================================ symbols

/-- A symbol stands for its value. -/
theorem valueAt_symbol {v : Nat} (h : v < 64) (offset : Nat) :
    valueAt offset (symbol v) = .ok v := by
  unfold valueAt
  rw [value?_symbol v h]

theorem symbol_lt : ∀ v, v < 64 → (symbol v).toNat < 128 := by decide

/-- A symbol in the last group, before any padding. -/
theorem lastSymbols_symbol {v : Nat} (h : v < 64) (base i : Nat)
    (rest : List UInt8) :
    lastSymbols base i [] (symbol v :: rest)
      = (lastSymbols base (i + 1) [] rest).map
          fun p => ((v, symbol v) :: p.1, p.2) := by
  rw [lastSymbols, if_neg (symbol_ne_pad v h)]
  simp only [List.getLast?_nil, value?_symbol v h]
  cases lastSymbols base (i + 1) [] rest with
  | error e => rfl
  | ok p => rfl

private theorem byte_lt (b : UInt8) : b.toNat < 256 := b.toNat_lt

/-- A byte is its number. -/
private theorem toUInt8_of_eq {n : Nat} {b : UInt8} (h : n = b.toNat) :
    n.toUInt8 = b := by
  rw [h]
  exact UInt8.ofNat_toNat

-- ============================================================= groups

/-- Three bytes come back from their four symbols. -/
theorem group_three (a b c : UInt8) :
    group (a.toNat / 4) (a.toNat % 4 * 16 + b.toNat / 16)
      (b.toNat % 16 * 4 + c.toNat / 64) (c.toNat % 64) = [a, b, c] := by
  have ha := byte_lt a
  have hb := byte_lt b
  have hc := byte_lt c
  unfold group
  rw [toUInt8_of_eq (b := a) (by omega), toUInt8_of_eq (b := b) (by omega),
    toUInt8_of_eq (b := c) (by omega)]

/-- A full group that is not the last. -/
theorem decodeFrom_group (offset : Nat) (a b c : UInt8) {rest : List UInt8}
    (h : rest ≠ []) :
    decodeFrom offset (symbol (a.toNat / 4)
      :: symbol (a.toNat % 4 * 16 + b.toNat / 16)
      :: symbol (b.toNat % 16 * 4 + c.toNat / 64) :: symbol (c.toNat % 64) :: rest)
      = (decodeFrom (offset + 4) rest).map fun bs => a :: b :: c :: bs := by
  have ha := byte_lt a
  have hb := byte_lt b
  have hc := byte_lt c
  obtain ⟨e, rest, rfl⟩ := List.exists_cons_of_ne_nil h
  rw [decodeFrom, valueAt_symbol (by omega), valueAt_symbol (by omega),
    valueAt_symbol (by omega), valueAt_symbol (by omega)]
  simp only [bind, Except.bind, group_three]
  cases decodeFrom (offset + 4) (e :: rest) with
  | error e => rfl
  | ok bs => rfl

/-- A full group that is the last. -/
theorem decodeLast_full (offset : Nat) (a b c : UInt8) :
    decodeFrom offset [symbol (a.toNat / 4),
      symbol (a.toNat % 4 * 16 + b.toNat / 16),
      symbol (b.toNat % 16 * 4 + c.toNat / 64), symbol (c.toNat % 64)]
      = .ok [a, b, c] := by
  have ha := byte_lt a
  have hb := byte_lt b
  have hc := byte_lt c
  rw [decodeFrom, decodeLast, lastSymbols_symbol (by omega),
    lastSymbols_symbol (by omega), lastSymbols_symbol (by omega),
    lastSymbols_symbol (by omega)]
  · have hp : lastSymbols offset 4 [] [] = .ok ([], 0) := rfl
    simp [hp, Except.map, bind, Except.bind, group_three]
    rfl
  · intro h
    cases h
  · intro _ _ _ _ _ _ h
    cases h

/-- A last group of one byte. -/
theorem decodeLast_one (offset : Nat) (a : UInt8) :
    decodeFrom offset
      [symbol (a.toNat / 4), symbol (a.toNat % 4 * 16), pad, pad] = .ok [a] := by
  have ha := byte_lt a
  have hbits : a.toNat % 4 * 16 % 16 = 0 := by omega
  rw [decodeFrom, decodeLast, lastSymbols_symbol (by omega),
    lastSymbols_symbol (by omega)]
  · have hp : lastSymbols offset 2 [] [pad, pad] = .ok ([], 2) := rfl
    have hg : (group (a.toNat / 4) (a.toNat % 4 * 16) 0 0).take 1 = [a] := by
      unfold group
      rw [toUInt8_of_eq (b := a) (by omega)]
      rfl
    simp [hp, Except.map, bind, Except.bind, hbits, hg]
    rfl
  · intro h
    cases h
  · intro _ _ _ _ _ _ h
    cases h

/-- A last group of two bytes. -/
theorem decodeLast_two (offset : Nat) (a b : UInt8) :
    decodeFrom offset [symbol (a.toNat / 4),
      symbol (a.toNat % 4 * 16 + b.toNat / 16), symbol (b.toNat % 16 * 4), pad]
      = .ok [a, b] := by
  have ha := byte_lt a
  have hb := byte_lt b
  have hbits : b.toNat % 16 * 4 % 4 = 0 := by omega
  rw [decodeFrom, decodeLast, lastSymbols_symbol (by omega),
    lastSymbols_symbol (by omega), lastSymbols_symbol (by omega)]
  · have hp : lastSymbols offset 3 [] [pad] = .ok ([], 1) := rfl
    have hg : (group (a.toNat / 4) (a.toNat % 4 * 16 + b.toNat / 16)
        (b.toNat % 16 * 4) 0).take 2 = [a, b] := by
      unfold group
      rw [toUInt8_of_eq (b := a) (by omega), toUInt8_of_eq (b := b) (by omega)]
      rfl
    simp [hp, Except.map, bind, Except.bind, hbits, hg]
    rfl
  · intro h
    cases h
  · intro _ _ _ _ _ _ h
    cases h

-- ========================================================= whole texts

/-- Groups follow one another unless the bytes have ended. -/
theorem encodeList_ne_nil {bs : List UInt8} (h : bs ≠ []) : encodeList bs ≠ [] := by
  fun_cases encodeList bs with
  | case1 => exact absurd rfl h
  | case2 a => intro hn; cases hn
  | case3 a b => intro hn; cases hn
  | case4 a b c rest => intro hn; cases hn

/-- The symbols of a list of bytes read back, wherever they start. -/
theorem decodeFrom_encodeList (bs : List UInt8) :
    ∀ offset, decodeFrom offset (encodeList bs) = .ok bs := by
  induction bs using encodeList.induct with
  | case1 => exact fun _ => rfl
  | case2 a => exact fun offset => decodeLast_one offset a
  | case3 a b => exact fun offset => decodeLast_two offset a b
  | case4 a b c rest ih =>
      intro offset
      rw [encodeList]
      by_cases hrest : rest = []
      · subst hrest
        exact decodeLast_full offset a b c
      · rw [decodeFrom_group offset a b c (encodeList_ne_nil hrest), ih]
        rfl

/-- The symbols come in fours, so no byte is left over. -/
theorem length_encodeList_mod (bs : List UInt8) :
    (encodeList bs).length % 4 = 0 := by
  induction bs using encodeList.induct with
  | case1 => rfl
  | case2 a => simp only [encodeList, List.length_cons, List.length_nil]
  | case3 a b => simp only [encodeList, List.length_cons, List.length_nil]
  | case4 a b c rest ih =>
      rw [encodeList]
      simp only [List.length_cons]
      omega

/-- Base64 is ASCII. -/
theorem encodeList_lt (bs : List UInt8) : ∀ s ∈ encodeList bs, s.toNat < 128 := by
  induction bs using encodeList.induct with
  | case1 => exact fun s hs => absurd hs List.not_mem_nil
  | case2 a =>
      have ha := byte_lt a
      intro s hs
      simp only [encodeList, List.mem_cons, List.not_mem_nil, or_false] at hs
      rcases hs with rfl | rfl | rfl | rfl
      · exact symbol_lt _ (by omega)
      · exact symbol_lt _ (by omega)
      · decide
      · decide
  | case3 a b =>
      have ha := byte_lt a
      have hb := byte_lt b
      intro s hs
      simp only [encodeList, List.mem_cons, List.not_mem_nil, or_false] at hs
      rcases hs with rfl | rfl | rfl | rfl
      · exact symbol_lt _ (by omega)
      · exact symbol_lt _ (by omega)
      · exact symbol_lt _ (by omega)
      · decide
  | case4 a b c rest ih =>
      have ha := byte_lt a
      have hb := byte_lt b
      have hc := byte_lt c
      intro s hs
      simp only [encodeList, List.mem_cons] at hs
      rcases hs with rfl | rfl | rfl | rfl | hs
      · exact symbol_lt _ (by omega)
      · exact symbol_lt _ (by omega)
      · exact symbol_lt _ (by omega)
      · exact symbol_lt _ (by omega)
      · exact ih s hs

/-- Base64 reads back what it writes. -/
theorem decode_encode (bytes : Bytes) : decode (encode bytes) = .ok bytes := by
  have hsym : Bytes.toList (encode bytes).toUTF8 = encodeList (Bytes.toList bytes) :=
    Bytes.toList_toUTF8_ofList (encodeList_lt _)
  have hstray : strayByte? (encodeList (Bytes.toList bytes)) = none := by
    have hlen := length_encodeList_mod (Bytes.toList bytes)
    unfold strayByte?
    split
    · exact if_neg fun h => by omega
    · rfl
  unfold decode
  simp only [hsym, hstray, decodeFrom_encodeList]
  exact congrArg Except.ok (Bytes.ofList_toList bytes)

end ProviderLink.Base64
