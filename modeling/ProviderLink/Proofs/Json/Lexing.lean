/-
A text is taken apart into the tokens it was put together from.

The lexer is a machine over characters, so the law is stated with
whatever may follow: from `between`, the characters of a token and then
`cs` give the token and then what `cs` gives (`lexFrom_token`). Only a
token of word characters asks something of `cs`, that it must not go on
with another word character; between the tokens of a value a separator
or an end always stands behind a word (`spaced_tokens`), so the law
carries over to all of them (`lexemes_chars`).

A number is the one token that may not read back: an integer always
does, about a double nothing is claimed here. So the law says what each
token is read as (`relexed?`), and of a `Legible` value, all of whose
numbers do read back, that is its tokens (`lexemes_chars_of_legible`).
-/
import ProviderLink.Json.Lexer
import ProviderLink.Proofs.Json.Canonical
import ProviderLink.Proofs.Number.Printing

namespace ProviderLink

-- ============================================================ legible

/-- The number reads back from its text. -/
def Number.Legible (n : Number) : Prop := Number.ofChars? n.chars = some n

/-- An integer reads back. -/
theorem Number.legible_int (i : Int) (h : -0x8000000000000000 ≤ i ∧ i < 0x10000000000000000) :
    (Number.int i h).Legible :=
  Number.ofChars?_intChars i h

/-- A token whose number, if it is one, reads back. -/
def Token.Legible : Token → Prop
  | .number n => n.Legible
  | _ => True

namespace Json

mutual

/-- Every number in the value reads back. -/
def Legible : Json → Prop
  | number n => n.Legible
  | array items => LegibleItems items
  | object members => LegibleMembers members
  | null | bool _ | string _ => True

/-- Every number in the items reads back. -/
def LegibleItems : List Json → Prop
  | [] => True
  | v :: rest => Legible v ∧ LegibleItems rest

/-- Every number in the members reads back. -/
def LegibleMembers : List (String × Json) → Prop
  | [] => True
  | (_, v) :: rest => Legible v ∧ LegibleMembers rest

end

theorem legibleItems_iff {items : List Json} :
    LegibleItems items ↔ ∀ v ∈ items, v.Legible := by
  induction items with
  | nil => simp [LegibleItems]
  | cons v items ih =>
      rw [LegibleItems, ih, List.forall_mem_cons]

theorem legibleMembers_iff {members : List (String × Json)} :
    LegibleMembers members ↔ ∀ e ∈ members, e.2.Legible := by
  induction members with
  | nil => simp [LegibleMembers]
  | cons e members ih =>
      obtain ⟨k, v⟩ := e
      rw [LegibleMembers, ih, List.forall_mem_cons]

mutual

/-- The canonical form of a legible value is legible. -/
theorem legible_canonical : (v : Json) → v.Legible → (canonical v).Legible
  | null, _ => by simp only [canonical, Legible]
  | bool _, _ => by simp only [canonical, Legible]
  | number _, h => by rwa [canonical]
  | string _, _ => by simp only [canonical, Legible]
  | array items, h => by
      simp only [canonical, Legible] at h ⊢
      exact legible_canonicalItems items h
  | object members, h => by
      simp only [canonical, Legible] at h ⊢
      refine legibleMembers_iff.2 fun e he => ?_
      exact legibleMembers_iff.1 (legible_canonicalMembers members h) e
        (Dict.mem_of_mem_ofList he)

theorem legible_canonicalItems : (items : List Json) → LegibleItems items →
    LegibleItems (canonicalItems items)
  | [], _ => by simp only [canonicalItems, LegibleItems]
  | v :: rest, h => by
      simp only [canonicalItems, LegibleItems] at h ⊢
      exact ⟨legible_canonical v h.1, legible_canonicalItems rest h.2⟩

theorem legible_canonicalMembers : (members : List (String × Json)) →
    LegibleMembers members → LegibleMembers (canonicalMembers members)
  | [], _ => by simp only [canonicalMembers, LegibleMembers]
  | (_, v) :: rest, h => by
      simp only [canonicalMembers, LegibleMembers] at h ⊢
      exact ⟨legible_canonical v h.1, legible_canonicalMembers rest h.2⟩

end

open LexMode

-- =============================================================== words

/-- The text does not go on with a word character. -/
def EndsWord (cs : List Char) : Prop := ∀ c ∈ cs.head?, isWordChar c = false

/-- A word ends where the text does or where another character stands. -/
theorem lexFrom_word {gathered cs : List Char} (h : EndsWord cs) :
    lexFrom (.word gathered) cs = (wordLexeme? gathered.reverse).bind fun l =>
      (lexFrom .between cs).map fun ls => l :: ls := by
  cases cs with
  | nil =>
      rw [lexFrom, lexFrom]
      cases wordLexeme? gathered.reverse <;> rfl
  | cons c cs =>
      have hc : ¬isWordChar c = true := by
        rw [h c rfl]
        exact Bool.false_ne_true
      rw [lexFrom, lexFrom, if_neg hc]
      cases wordLexeme? gathered.reverse with
      | none => rfl
      | some l =>
          cases start? c with
          | none => rfl
          | some p =>
              obtain ⟨ts, mode⟩ := p
              cases hrest : lexFrom mode cs with
              | none => simp [hrest]
              | some ls => simp [hrest]

theorem lexFrom_gather (word : List Char) (hw : ∀ c ∈ word, isWordChar c = true)
    (cs : List Char) : ∀ gathered, lexFrom (.word gathered) (word ++ cs)
      = lexFrom (.word (word.reverse ++ gathered)) cs := by
  induction word with
  | nil => exact fun _ => rfl
  | cons c word ih =>
      intro gathered
      rw [List.cons_append, lexFrom, if_pos (hw c (List.mem_cons_self ..)),
        ih (fun c' hc' => hw c' (List.mem_cons_of_mem _ hc')), List.reverse_cons,
        List.append_assoc, List.singleton_append]

/-- A word character between tokens starts a word. -/
theorem start?_of_isWordChar {c : Char} (h : isWordChar c = true) :
    start? c = some ([], .word [c]) := by
  have hne : ∀ d, isWordChar d = false → c ≠ d := by
    rintro d hd rfl
    rw [hd] at h
    exact Bool.false_ne_true h
  have hspace : isSpace c = false := by
    unfold isSpace
    rw [Bool.or_eq_false_iff, Bool.or_eq_false_iff, Bool.or_eq_false_iff]
    exact ⟨⟨⟨beq_false_of_ne (hne _ (by decide)), beq_false_of_ne (hne _ (by decide))⟩,
      beq_false_of_ne (hne _ (by decide))⟩, beq_false_of_ne (hne _ (by decide))⟩
  unfold start?
  rw [hspace, if_neg Bool.false_ne_true, if_neg (hne _ (by decide)),
    if_neg (hne _ (by decide)), if_neg (hne _ (by decide)),
    if_neg (hne _ (by decide)), if_neg (hne _ (by decide)),
    if_neg (hne _ (by decide)), if_neg (hne _ (by decide)), if_pos h]

/-- A word between other tokens. -/
theorem lexFrom_wordToken {word cs : List Char} (hne : word ≠ [])
    (hw : ∀ c ∈ word, isWordChar c = true) (hcs : EndsWord cs) :
    lexFrom .between (word ++ cs) = (wordLexeme? word).bind fun l =>
      (lexFrom .between cs).map fun ls => l :: ls := by
  obtain ⟨c, word, rfl⟩ := List.exists_cons_of_ne_nil hne
  have hword := fun c' hc' => hw c' (List.mem_cons_of_mem _ hc')
  have hgather : lexFrom (.word [c]) (word ++ cs) = (wordLexeme? (c :: word)).bind fun l =>
      (lexFrom .between cs).map fun ls => l :: ls := by
    rw [lexFrom_gather word hword, lexFrom_word hcs, List.reverse_append,
      List.reverse_reverse, List.reverse_singleton, List.singleton_append]
  rw [List.cons_append, lexFrom, start?_of_isWordChar (hw c (List.mem_cons_self ..))]
  simp [hgather]

/-- What numbers are written with are word characters. -/
theorem isWordChar_of_isMark {c : Char} (h : Number.IsMark c) : isWordChar c = true := by
  rcases h with h | rfl | rfl | rfl | rfl
  · simp [isWordChar, Char.isAlphanum, h]
  · decide
  · decide
  · decide
  · decide

theorem wordToken?_of_numeral {cs : List Char} {n : Number}
    (h : Number.ofChars? cs = some n) : wordToken? cs = some (.number n) := by
  have hword : ∀ word, Number.ofChars? word = none → cs ≠ word := by
    rintro word hw rfl
    rw [hw] at h
    cases h
  unfold wordToken?
  rw [if_neg (hword _ (by decide)), if_neg (hword _ (by decide)),
    if_neg (hword _ (by decide)), h]
  rfl

-- ============================================================= strings

/-- A control character is written as the number it has. -/
theorem unitPart_of_control {c : Char} (h : c.toNat < 0x20) :
    unitPart c.toNat = .char c := by
  have hhigh : isHigh c.toNat = false :=
    Bool.and_eq_false_iff.2 (Or.inl (decide_eq_false (by omega)))
  have hlow : isLow c.toNat = false :=
    Bool.and_eq_false_iff.2 (Or.inl (decide_eq_false (by omega)))
  unfold unitPart
  rw [hhigh, hlow, Bool.or_self, if_neg Bool.false_ne_true, Char.ofNat_toNat]

/-- The digits of a control character's number read back. -/
theorem hex4?_of_control {n : Nat} (h : n < 0x20) :
    hex4? '0' '0' (Nat.digitChar (n / 16)) (Nat.digitChar (n % 16)) = some n := by
  have hall : ∀ n, n < 0x20 →
      hex4? '0' '0' (Nat.digitChar (n / 16)) (Nat.digitChar (n % 16)) = some n := by
    decide
  exact hall n h

/-- A short escape stands for its character. -/
theorem lexFrom_shortEscape {e c : Char} (hu : e ≠ 'u') (he : shortEscape? e = some c)
    (gathered : List StringPart) (cs : List Char) :
    lexFrom (.string gathered) ('\\' :: e :: cs)
      = lexFrom (.string (.char c :: gathered)) cs := by
  rw [lexFrom]
  · rw [he]
    rfl
  · intro _ _ _ _ _ heq
    exact absurd heq hu

/-- A character inside a string comes back, however it is written. -/
theorem lexFrom_stringChar (c : Char) (gathered : List StringPart)
    (cs : List Char) : lexFrom (.string gathered) (Token.stringChar c ++ cs)
      = lexFrom (.string (.char c :: gathered)) cs := by
  have hnum : ∀ n, c.toNat = n → Char.ofNat n = c := by
    rintro n rfl
    exact Char.ofNat_toNat c
  unfold Token.stringChar
  split
  · next h => subst h; exact lexFrom_shortEscape (by decide) rfl gathered cs
  split
  · next h => subst h; exact lexFrom_shortEscape (by decide) rfl gathered cs
  split
  · next h => subst h; exact lexFrom_shortEscape (by decide) rfl gathered cs
  split
  · next h => subst h; exact lexFrom_shortEscape (by decide) rfl gathered cs
  split
  · next h => subst h; exact lexFrom_shortEscape (by decide) rfl gathered cs
  split
  · next h => rw [← hnum 8 h]; exact lexFrom_shortEscape (by decide) rfl gathered cs
  split
  · next h => rw [← hnum 12 h]; exact lexFrom_shortEscape (by decide) rfl gathered cs
  split
  · next h =>
    have hlex : lexFrom (.string gathered) ('\\' :: 'u' :: '0' :: '0'
        :: Nat.digitChar (c.toNat / 16) :: Nat.digitChar (c.toNat % 16) :: cs)
        = lexFrom (.string (.char c :: gathered)) cs := by
      rw [lexFrom, hex4?_of_control h, ← unitPart_of_control h]
      rfl
    exact hlex
  · next hquote hslash _ _ _ _ _ hcontrol =>
    rw [List.singleton_append, lexFrom, if_neg (not_or.2 ⟨hcontrol, hslash⟩)]
    · exact hquote
    · intro _ _ _ _ _ h
      exact absurd h hslash
    · intro _ _ h
      exact absurd h hslash

/-- Whole characters are the characters of their string. -/
theorem charsOf?_chars (cs : List Char) : ∀ rest,
    charsOf? (cs.map StringPart.char) rest = some (cs.reverse ++ rest) := by
  induction cs with
  | nil => exact fun _ => rfl
  | cons c cs ih =>
      intro rest
      rw [List.map_cons, charsOf?, ih, List.reverse_cons, List.append_assoc,
        List.singleton_append]

/-- The characters of a string and the quote behind them. -/
theorem lexFrom_stringChars (text : List Char) (cs : List Char) :
    ∀ gathered : List Char, lexFrom (.string (gathered.map StringPart.char))
        (text.flatMap Token.stringChar ++ '"' :: cs)
      = (lexFrom .between cs).map fun ls =>
          .token (.string (String.ofList (gathered.reverse ++ text))) :: ls := by
  induction text with
  | nil =>
      intro gathered
      have hlexeme : stringLexeme (gathered.map StringPart.char)
          = .token (.string (String.ofList gathered.reverse)) := by
        unfold stringLexeme
        rw [charsOf?_chars, List.append_nil]
      rw [List.flatMap_nil, List.nil_append, lexFrom, hlexeme, List.append_nil]
      cases lexFrom .between cs <;> rfl
  | cons c text ih =>
      intro gathered
      rw [List.flatMap_cons, List.append_assoc, lexFrom_stringChar, ← List.map_cons,
        ih, List.reverse_cons, List.append_assoc, List.singleton_append]

-- ============================================================== tokens

/-- Whether a token is written with word characters. -/
def isWord : Token → Bool
  | .null | .bool _ | .number _ => true
  | _ => false

/-- What the characters of a token are read as: the token, but for a number. -/
def relexed? : Token → Option Lexeme
  | .number n => wordLexeme? n.chars
  | t => some (.token t)

theorem relexed?_of_legible {t : Token} (h : t.Legible) : relexed? t = some (.token t) := by
  cases t with
  | number n => rw [relexed?, wordLexeme?, wordToken?_of_numeral h]; rfl
  | _ => rfl

/-- A token of one character that is not part of a word. -/
theorem lexFrom_mark {c : Char} {t : Token} (h : start? c = some ([t], .between))
    (cs : List Char) : lexFrom .between (c :: cs)
      = (lexFrom .between cs).map fun ls => .token t :: ls := by
  rw [lexFrom, h]
  cases hcs : lexFrom .between cs with
  | none => simp [hcs]
  | some ls => simp [hcs]

/-- The characters of a token are read as that. -/
theorem lexFrom_token (t : Token) {cs : List Char} (hcs : isWord t = true → EndsWord cs) :
    lexFrom .between (t.chars ++ cs) = (relexed? t).bind fun l =>
      (lexFrom .between cs).map fun ls => l :: ls := by
  cases t with
  | beginArray => exact lexFrom_mark rfl cs
  | endArray => exact lexFrom_mark rfl cs
  | beginObject => exact lexFrom_mark rfl cs
  | endObject => exact lexFrom_mark rfl cs
  | nameSeparator => exact lexFrom_mark rfl cs
  | valueSeparator => exact lexFrom_mark rfl cs
  | null => exact lexFrom_wordToken (by decide) (List.all_eq_true.1 rfl) (hcs rfl)
  | bool b =>
      cases b with
      | true => exact lexFrom_wordToken (by decide) (List.all_eq_true.1 rfl) (hcs rfl)
      | false => exact lexFrom_wordToken (by decide) (List.all_eq_true.1 rfl) (hcs rfl)
  | number n =>
      exact lexFrom_wordToken n.chars_ne_nil
        (fun c hc => isWordChar_of_isMark (n.isMark_chars c hc)) (hcs rfl)
  | string s =>
      have hstart : start? '"' = some ([], .string []) := rfl
      have hstring := lexFrom_stringChars s.toList cs []
      rw [List.reverse_nil, List.nil_append, String.ofList_toList] at hstring
      rw [Token.chars, Token.stringChars, List.cons_append, List.append_assoc,
        List.singleton_append, lexFrom, hstart]
      simp only [List.map_nil] at hstring
      simp [hstring, relexed?]

/-- Where a token of another kind follows, a word ends. -/
theorem endsWord_token {t : Token} (h : isWord t = false) (cs : List Char) :
    EndsWord (t.chars ++ cs) := by
  intro c hc
  cases t with
  | null => cases h
  | bool b => cases h
  | number n => cases h
  | _ =>
      cases hc
      decide

def tokenChars (ts : List Token) : List Char := ts.flatMap Token.chars

/-- The tokens do not begin with a word. -/
def AfterWord (ts : List Token) : Prop := ∀ t ∈ ts.head?, isWord t = false

theorem AfterWord.endsWord {ts : List Token} (h : AfterWord ts) : EndsWord (tokenChars ts) := by
  cases ts with
  | nil => exact fun _ hc => (by cases hc)
  | cons t ts =>
      have hchars : tokenChars (t :: ts) = t.chars ++ tokenChars ts := List.flatMap_cons
      rw [hchars]
      exact endsWord_token (h t rfl) _

/-- No word stands right behind another. -/
def Spaced : List Token → Prop
  | [] => True
  | t :: ts => (isWord t = true → AfterWord ts) ∧ Spaced ts

/-- Tokens that are spaced are read one by one. -/
theorem lexFrom_spaced {ts : List Token} (h : Spaced ts) :
    lexFrom .between (tokenChars ts) = ts.mapM relexed? := by
  induction ts with
  | nil => rfl
  | cons t ts ih =>
      have hchars : tokenChars (t :: ts) = t.chars ++ tokenChars ts := List.flatMap_cons
      rw [hchars, lexFrom_token t fun hw => (h.1 hw).endsWord, ih h.2, List.mapM_cons]
      cases relexed? t with
      | none => rfl
      | some l => cases ts.mapM relexed? <;> rfl

-- ============================================================== values

/-- Tokens that are spaced, and may stand behind a word. -/
structure Follows (ts : List Token) : Prop where
  afterWord : AfterWord ts
  spaced : Spaced ts

theorem Follows.nil : Follows [] := ⟨fun _ ht => (by cases ht), trivial⟩

/-- A token that is no word in front of others. -/
theorem Follows.cons {t : Token} {ts : List Token} (hw : isWord t = false) (hts : Spaced ts) :
    Follows (t :: ts) := by
  refine ⟨fun t' ht' => ?_, fun h => ?_, hts⟩
  · cases ht'
    exact hw
  · rw [hw] at h
    cases h

/-- A word in front of others. -/
theorem Follows.word {ts : List Token} (h : Follows ts) (t : Token) : Spaced (t :: ts) :=
  ⟨fun _ => h.afterWord, h.spaced⟩

mutual

/-- The tokens of a value are spaced, with others that may follow it. -/
theorem spaced_tokens : (v : Json) → {ts : List Token} → Follows ts → Spaced (v.tokens ++ ts)
  | null, _, hts => by rw [tokens]; exact hts.word .null
  | bool b, _, hts => by rw [tokens]; exact hts.word (.bool b)
  | number n, _, hts => by rw [tokens]; exact hts.word (.number n)
  | string s, _, hts => by rw [tokens]; exact hts.word (.string s)
  | array items, ts, hts => by
      have hend : Follows (.endArray :: ts) := .cons rfl hts.spaced
      rw [tokens, List.cons_append, List.append_assoc, List.singleton_append]
      refine (Follows.cons (t := .beginArray) rfl ?_).spaced
      cases items with
      | nil => exact hend.spaced
      | cons v rest =>
          rw [itemTokens, List.append_assoc]
          exact spaced_tokens v (follows_moreItemTokens rest hend)
  | object members, ts, hts => by
      have hend : Follows (.endObject :: ts) := .cons rfl hts.spaced
      rw [tokens, List.cons_append, List.append_assoc, List.singleton_append]
      refine (Follows.cons (t := .beginObject) rfl ?_).spaced
      cases members with
      | nil => exact hend.spaced
      | cons e rest =>
          obtain ⟨k, v⟩ := e
          rw [memberTokens, List.cons_append, List.cons_append, List.append_assoc]
          have hv := spaced_tokens v (follows_moreMemberTokens rest hend)
          have hname : Follows (.nameSeparator :: _) := .cons rfl hv
          exact hname.word (.string k)

/-- The tokens of further items, with others that may follow them. -/
theorem follows_moreItemTokens : (items : List Json) → {ts : List Token} → Follows ts →
    Follows (moreItemTokens items ++ ts)
  | [], _, hts => by
      rw [moreItemTokens]
      exact hts
  | v :: rest, ts, hts => by
      rw [moreItemTokens, List.cons_append, List.append_assoc]
      exact .cons rfl (spaced_tokens v (follows_moreItemTokens rest hts))

/-- The tokens of further members, with others that may follow them. -/
theorem follows_moreMemberTokens : (members : List (String × Json)) → {ts : List Token} →
    Follows ts → Follows (moreMemberTokens members ++ ts)
  | [], _, hts => by
      rw [moreMemberTokens]
      exact hts
  | (k, v) :: rest, ts, hts => by
      rw [moreMemberTokens, List.cons_append, List.cons_append, List.cons_append,
        List.append_assoc]
      have hv := spaced_tokens v (follows_moreMemberTokens rest hts)
      have hname : Follows (.nameSeparator :: _) := .cons rfl hv
      exact .cons rfl (hname.word (.string k))

end

/-- The lexemes of a value's text are what its tokens are read as. -/
theorem lexemes_chars (v : Json) : lexemes v.chars = v.tokens.mapM relexed? := by
  have hspaced := v.spaced_tokens .nil
  rw [List.append_nil] at hspaced
  exact lexFrom_spaced hspaced

mutual

/-- A value is legible if its tokens are. -/
theorem legible_iff_tokens : (v : Json) → (v.Legible ↔ ∀ t ∈ v.tokens, t.Legible)
  | null => by simp [Legible, tokens, Token.Legible]
  | bool b => by simp [Legible, tokens, Token.Legible]
  | number n => by simp [Legible, tokens, Token.Legible]
  | string s => by simp [Legible, tokens, Token.Legible]
  | array items => by
      cases items with
      | nil => simp [Legible, LegibleItems, tokens, itemTokens, Token.Legible]
      | cons v rest =>
          rw [Legible, LegibleItems, legible_iff_tokens v, legibleItems_iff_tokens rest, tokens,
            itemTokens, List.forall_mem_cons, List.forall_mem_append, List.forall_mem_append]
          simp [Token.Legible]
  | object members => by
      cases members with
      | nil => simp [Legible, LegibleMembers, tokens, memberTokens, Token.Legible]
      | cons e rest =>
          obtain ⟨k, v⟩ := e
          rw [Legible, LegibleMembers, legible_iff_tokens v, legibleMembers_iff_tokens rest,
            tokens, memberTokens, List.forall_mem_cons, List.forall_mem_append,
            List.forall_mem_cons, List.forall_mem_cons, List.forall_mem_append]
          simp [Token.Legible]

theorem legibleItems_iff_tokens : (items : List Json) →
    (LegibleItems items ↔ ∀ t ∈ moreItemTokens items, t.Legible)
  | [] => by simp [LegibleItems, moreItemTokens]
  | v :: rest => by
      rw [LegibleItems, legible_iff_tokens v, legibleItems_iff_tokens rest, moreItemTokens,
        List.forall_mem_cons, List.forall_mem_append]
      simp [Token.Legible]

theorem legibleMembers_iff_tokens : (members : List (String × Json)) →
    (LegibleMembers members ↔ ∀ t ∈ moreMemberTokens members, t.Legible)
  | [] => by simp [LegibleMembers, moreMemberTokens]
  | (k, v) :: rest => by
      rw [LegibleMembers, legible_iff_tokens v, legibleMembers_iff_tokens rest, moreMemberTokens,
        List.forall_mem_cons, List.forall_mem_cons, List.forall_mem_cons, List.forall_mem_append]
      simp [Token.Legible]

end

/-- The lexemes of a legible value's text are its tokens. -/
theorem lexemes_chars_of_legible {v : Json} (h : v.Legible) :
    lexemes v.chars = some (v.tokens.map .token) := by
  have hread : ∀ ts : List Token, (∀ t ∈ ts, t.Legible) →
      ts.mapM relexed? = some (ts.map .token) := by
    intro ts
    induction ts with
    | nil => exact fun _ => rfl
    | cons t ts ih =>
        intro hts
        obtain ⟨ht, hrest⟩ := List.forall_mem_cons.1 hts
        simp [relexed?_of_legible ht, ih hrest]
  rw [lexemes_chars]
  exact hread _ (v.legible_iff_tokens.1 h)

end Json

end ProviderLink
