/-
What a text is read as that a value was written to. It is that value with
each number replaced by what its own text is read as
(`ofBytes?_text_readBack`): no text of a value is refused but for its
nesting, since the text of every double is read as a double.

The tokens of the text are those of that value (`lex_chars_reread`), and
as it is as deep as the one written and ordered like it, it comes through
the parser and the canonical form. So a value reads back from its own text
if all its numbers do, and not otherwise (`ofBytes?_text_iff`): a number
that goes wrong is not made up for elsewhere, because the tokens would be
others.
-/
import ProviderLink.Proofs.Json.Parsing
import ProviderLink.Proofs.Number.Reading

namespace ProviderLink

/-- The token with another number, if it is one. -/
def Token.mapNumber (f : Number → Number) : Token → Token
  | number n => number (f n)
  | t => t

namespace Json

-- ============================================================== numbers

mutual

/-- The value with other numbers. -/
def mapNumbers (f : Number → Number) : Json → Json
  | number n => number (f n)
  | array items => array (mapNumbersItems f items)
  | object members => object (mapNumbersMembers f members)
  | null => null
  | bool b => bool b
  | string s => string s

/-- The items with other numbers. -/
def mapNumbersItems (f : Number → Number) : List Json → List Json
  | [] => []
  | v :: rest => mapNumbers f v :: mapNumbersItems f rest

/-- The members with other numbers. -/
def mapNumbersMembers (f : Number → Number) : List (String × Json) → List (String × Json)
  | [] => []
  | (k, v) :: rest => (k, mapNumbers f v) :: mapNumbersMembers f rest

end

section MapNumbers

variable (f : Number → Number)

mutual

/-- Only the tokens of numbers are others. -/
theorem tokens_mapNumbers : (v : Json) →
    (mapNumbers f v).tokens = v.tokens.map (Token.mapNumber f)
  | null => rfl
  | bool _ => rfl
  | number _ => rfl
  | string _ => rfl
  | array items => by
      cases items with
      | nil => rfl
      | cons v rest =>
          simp only [mapNumbers, mapNumbersItems, tokens, itemTokens, tokens_mapNumbers v,
            moreItemTokens_mapNumbers rest, List.map_cons, List.map_append]
          rfl
  | object members => by
      cases members with
      | nil => rfl
      | cons e rest =>
          obtain ⟨k, v⟩ := e
          simp only [mapNumbers, mapNumbersMembers, tokens, memberTokens, tokens_mapNumbers v,
            moreMemberTokens_mapNumbers rest, List.map_cons, List.map_append]
          rfl

theorem moreItemTokens_mapNumbers : (items : List Json) →
    moreItemTokens (mapNumbersItems f items)
      = (moreItemTokens items).map (Token.mapNumber f)
  | [] => rfl
  | v :: rest => by
      simp only [mapNumbersItems, moreItemTokens, tokens_mapNumbers v,
        moreItemTokens_mapNumbers rest, List.map_cons, List.map_append]
      rfl

theorem moreMemberTokens_mapNumbers : (members : List (String × Json)) →
    moreMemberTokens (mapNumbersMembers f members)
      = (moreMemberTokens members).map (Token.mapNumber f)
  | [] => rfl
  | (k, v) :: rest => by
      simp only [mapNumbersMembers, moreMemberTokens, tokens_mapNumbers v,
        moreMemberTokens_mapNumbers rest, List.map_cons, List.map_append]
      rfl

end

mutual

theorem depth_mapNumbers : (v : Json) → (mapNumbers f v).depth = v.depth
  | null => rfl
  | bool _ => rfl
  | number _ => rfl
  | string _ => rfl
  | array items => congrArg Nat.succ (depthItems_mapNumbers items)
  | object members => congrArg Nat.succ (depthMembers_mapNumbers members)

theorem depthItems_mapNumbers : (items : List Json) →
    depthItems (mapNumbersItems f items) = depthItems items
  | [] => rfl
  | v :: rest => by
      rw [mapNumbersItems, depthItems, depthItems, depth_mapNumbers v, depthItems_mapNumbers rest]

theorem depthMembers_mapNumbers : (members : List (String × Json)) →
    depthMembers (mapNumbersMembers f members) = depthMembers members
  | [] => rfl
  | (k, v) :: rest => by
      rw [mapNumbersMembers, depthMembers, depthMembers, depth_mapNumbers v,
        depthMembers_mapNumbers rest]

end

theorem keys_mapNumbersMembers (members : List (String × Json)) :
    Dict.keys (mapNumbersMembers f members) = Dict.keys members := by
  induction members with
  | nil => rfl
  | cons e members ih =>
      obtain ⟨k, v⟩ := e
      rw [mapNumbersMembers]
      exact congrArg (k :: ·) ih

mutual

/-- Numbers are no matter for the order of members. -/
theorem ordered_mapNumbers : (v : Json) → v.Ordered → (mapNumbers f v).Ordered
  | null, _ => trivial
  | bool _, _ => trivial
  | number _, _ => trivial
  | string _, _ => trivial
  | array items, h => orderedItems_mapNumbers items h
  | object members, h => by
      rw [Ordered] at h
      rw [mapNumbers, Ordered, Dict.sorted_iff_keys, keys_mapNumbersMembers]
      exact ⟨Dict.sorted_iff_keys.1 h.1, orderedMembers_mapNumbers members h.2⟩

theorem orderedItems_mapNumbers : (items : List Json) → OrderedItems items →
    OrderedItems (mapNumbersItems f items)
  | [], _ => trivial
  | v :: rest, h => ⟨ordered_mapNumbers v h.1, orderedItems_mapNumbers rest h.2⟩

theorem orderedMembers_mapNumbers : (members : List (String × Json)) → OrderedMembers members →
    OrderedMembers (mapNumbersMembers f members)
  | [], _ => trivial
  | (_, v) :: rest, h => ⟨ordered_mapNumbers v h.1, orderedMembers_mapNumbers rest h.2⟩

end

end MapNumbers

-- =============================================================== tokens

/-- What the text of a number is read as. -/
def reread (n : Number) : Number := (Number.ofChars? n.chars).getD n

/-- The text of a number is read as a number. -/
theorem ofChars?_chars (n : Number) : Number.ofChars? n.chars = some (reread n) := by
  obtain ⟨m, hm⟩ : ∃ m, Number.ofChars? n.chars = some m := by
    cases n with
    | int i h => exact ⟨_, Number.ofChars?_intChars i h⟩
    | float x =>
        obtain ⟨y, hy⟩ := Number.exists_reads x
        exact ⟨_, hy.text⟩
  rw [reread, hm, Option.getD_some]

/-- A number is legible if it is read as itself. -/
theorem reread_eq_iff {n : Number} : reread n = n ↔ n.Legible := by
  rw [Number.Legible, ofChars?_chars, Option.some.injEq]

open LexMode

/-- The text of a number is none of the three words. -/
theorem wordToken?_chars (n : Number) : wordToken? n.chars = some (.number (reread n)) := by
  have hword : ∀ {c : Char} {cs : List Char}, ¬Number.IsMark c → n.chars ≠ c :: cs :=
    fun hc heq => hc (n.isMark_chars _ (heq ▸ List.mem_cons_self ..))
  have hmark : ∀ {c : Char}, c.isDigit = false → c ∉ ['-', '+', '.', 'e'] → ¬Number.IsMark c := by
    rintro c hdigit hc (h | rfl | rfl | rfl | rfl)
    · rw [hdigit] at h
      cases h
    all_goals exact hc (by decide)
  unfold wordToken?
  rw [if_neg (hword (hmark rfl (by decide))), if_neg (hword (hmark rfl (by decide))),
    if_neg (hword (hmark rfl (by decide))), ofChars?_chars, Option.map_some]

/-- A token is read as one with another number. -/
theorem relexed?_eq (t : Token) : relexed? t = some (.token (t.mapNumber reread)) := by
  cases t with
  | number n => rw [relexed?, wordLexeme?, wordToken?_chars]; rfl
  | _ => rfl

/-- A token that is read as itself is legible. -/
theorem legible_of_mapNumber {t : Token} (h : t.mapNumber reread = t) : t.Legible := by
  cases t with
  | number n => exact reread_eq_iff.1 (Token.number.inj h)
  | _ => trivial

/-- The tokens of a value's text are those of the value with its numbers read again. -/
theorem lex_chars_reread (v : Json) : lex v.chars = some (v.mapNumbers reread).tokens := by
  have hrelex : ∀ ts : List Token,
      ts.mapM relexed? = some (ts.map fun t => .token (t.mapNumber reread)) := by
    intro ts
    induction ts with
    | nil => rfl
    | cons t ts ih => simp [relexed?_eq, ih]
  have htoken : ∀ ts : List Token, (ts.map fun t => Lexeme.token (t.mapNumber reread)).mapM
      Lexeme.token? = some (ts.map (Token.mapNumber reread)) := by
    intro ts
    induction ts with
    | nil => rfl
    | cons t ts ih => simp [Lexeme.token?, ih]
  unfold lex
  rw [lexemes_chars, hrelex, tokens_mapNumbers]
  exact htoken v.tokens

-- ================================================================ texts

/-- What the text of a value is read as. -/
def readBack (v : Json) : Json := (v.mapNumbers reread).canonical

theorem readBack_array (items : List Json) :
    (array items).readBack = array (items.map readBack) := by
  have hitems : ∀ items : List Json,
      canonicalItems (mapNumbersItems reread items) = items.map readBack := by
    intro items
    induction items with
    | nil => rfl
    | cons v items ih => rw [mapNumbersItems, canonicalItems, ih, List.map_cons, readBack]
  rw [readBack, mapNumbers, canonical, hitems]

/-- The members of a sorted table, in whatever order they were written, are read in key order. -/
theorem readBack_object {members : List (String × Json)} {d : Dict String Json}
    (h : Dict.Sorted d) (hperm : members.Perm d) :
    (object members).readBack = object (Dict.mapValues readBack d) := by
  have hmembers : ∀ members : List (String × Json),
      canonicalMembers (mapNumbersMembers reread members) = Dict.mapValues readBack members := by
    intro members
    induction members with
    | nil => rfl
    | cons e members ih =>
        obtain ⟨k, v⟩ := e
        rw [mapNumbersMembers, canonicalMembers, ih]
        rfl
  have hread : (Dict.mapValues readBack members).Perm (Dict.mapValues readBack d) :=
    hperm.map _
  rw [readBack, mapNumbers, canonical, hmembers,
    Dict.ofList_of_perm ((Dict.sorted_mapValues readBack).2 h) hread]

/-- No text is refused but for its nesting. -/
theorem ofBytes?_text_readBack {v : Json} (hd : v.depth < maxDepth) :
    ofBytes? v.text.toUTF8 = some v.readBack := by
  have hparse : ofTokens? (some maxDepth) (v.mapNumbers reread).tokens
      = some (v.mapNumbers reread) :=
    ofTokens?_tokens fun b hb => by
      rw [depth_mapNumbers, ← Option.mem_some_iff.1 hb]
      exact hd
  rw [ofBytes?, Bytes.text?_toUTF8, Option.bind_some, ofText?, written?, text,
    String.toList_ofList, lex_chars_reread, Option.bind_some, hparse, Option.map_some, readBack]

/-- An ordered value reads back from the bytes of its text if it is legible, and not otherwise. -/
theorem ofBytes?_text_iff {v : Json} (hv : v.Ordered) (hd : v.depth < maxDepth) :
    ofBytes? v.text.toUTF8 = some v ↔ v.Legible := by
  constructor
  · intro h
    rw [ofBytes?_text_readBack hd, readBack,
      canonical_of_ordered _ (ordered_mapNumbers reread v hv)] at h
    have htokens : v.tokens.map (Token.mapNumber reread) = v.tokens.map id := by
      rw [← tokens_mapNumbers, Option.some.inj h, List.map_id]
    exact v.legible_iff_tokens.2 fun t ht =>
      legible_of_mapNumber (List.map_inj_left.1 htokens t ht)
  · intro h
    rw [ofBytes?_text h hd, canonical_of_ordered v hv]

end Json

end ProviderLink
