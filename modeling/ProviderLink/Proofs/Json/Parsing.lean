/-
A value is made again of its tokens. The parser is a machine over tokens
with a stack of what is open, so the law speaks of a value anywhere in a
text: where a value is awaited, its tokens put it in place and leave the
rest to go on from there (`parseFrom_tokens`). The stack may grow by the
depth of the value; that it has room for so much is all the law asks.

From the law and the one on tokens, a text reads back: as it was written
(`written?_chars`) and, in canonical form, as a value (`ofText?_text`).
-/
import ProviderLink.Json.Parser
import ProviderLink.Proofs.Json.Lexing

namespace ProviderLink.Json

-- ================================================================ room

/-- So many more levels may open. -/
def HasRoom (bound : Option Nat) (stack : List Frame) (levels : Nat) : Prop :=
  ∀ b ∈ bound, stack.length + levels < b

/-- Less depth needs less room. -/
theorem HasRoom.mono {bound : Option Nat} {stack : List Frame} {m n : Nat}
    (h : HasRoom bound stack n) (hmn : m ≤ n) : HasRoom bound stack m := by
  intro b hb
  have hn := h b hb
  omega

/-- A level that opens takes one off. -/
theorem HasRoom.push {bound : Option Nat} {stack : List Frame} {n : Nat}
    (h : HasRoom bound stack (n + 1)) (frame : Frame) :
    HasRoom bound (frame :: stack) n := by
  intro b hb
  have hn := h b hb
  rw [List.length_cons]
  omega

/-- What is open does not matter, only how much. -/
theorem HasRoom.replace {bound : Option Nat} {stack : List Frame} {n : Nat}
    {frame : Frame} (h : HasRoom bound (frame :: stack) n) (frame' : Frame) :
    HasRoom bound (frame' :: stack) n := h

/-- A level may open. -/
theorem hasRoom_of_HasRoom {bound : Option Nat} {stack : List Frame} {n : Nat}
    (h : HasRoom bound stack (n + 1)) : hasRoom bound stack = true := by
  cases bound with
  | none => rfl
  | some b =>
      have hb := h b rfl
      exact decide_eq_true (by omega)

-- =============================================================== steps

/-- A token leads to the state that the step names. -/
theorem parseFrom_step {bound : Option Nat} {stack : List Frame}
    {awaiting : Awaiting} {t : Token} {state : ParseState}
    (h : step bound stack awaiting t = some state) (ts : List Token) :
    parseFrom bound (.within stack awaiting) (t :: ts) = parseFrom bound state ts := by
  rw [parseFrom, h]

/-- An array opens. -/
theorem step_beginArray {bound : Option Nat} {stack : List Frame} {n : Nat}
    (h : HasRoom bound stack (n + 1)) :
    step bound stack .value .beginArray
      = some (.within (.array [] :: stack) .itemOrEnd) := by
  simp only [step, beginValue]
  rw [if_pos (hasRoom_of_HasRoom h)]

/-- An object opens. -/
theorem step_beginObject {bound : Option Nat} {stack : List Frame} {n : Nat}
    (h : HasRoom bound stack (n + 1)) :
    step bound stack .value .beginObject
      = some (.within (.object [] "" :: stack) .nameOrEnd) := by
  simp only [step, beginValue]
  rw [if_pos (hasRoom_of_HasRoom h)]

/-- A value never begins with the end of an array. -/
theorem tokens_ne_endArray (v : Json) (ts : List Token) :
    (v.tokens ++ ts).head? ≠ some .endArray := by
  cases v <;> simp [tokens]

/-- An array just opened takes a first item as it would any value. -/
theorem parseFrom_itemOrEnd {bound : Option Nat} {stack : List Frame}
    {ts : List Token} (h : ts.head? ≠ some .endArray) :
    parseFrom bound (.within stack .itemOrEnd) ts
      = parseFrom bound (.within stack .value) ts := by
  cases ts with
  | nil => rfl
  | cons t ts =>
      have ht : t ≠ .endArray := fun heq => h (heq ▸ rfl)
      have hstep : step bound stack .itemOrEnd t = step bound stack .value t := by
        simp only [step]
        rw [if_neg ht]
      rw [parseFrom, parseFrom, hstep]

/-- A name and its separator lead to the member's value. -/
theorem parseFrom_name (bound : Option Nat) {stack : List Frame}
    {awaiting : Awaiting} (ha : awaiting = .name ∨ awaiting = .nameOrEnd)
    (members : List (String × Json)) (name k : String) (ts : List Token) :
    parseFrom bound (.within (.object members name :: stack) awaiting)
        (.string k :: .nameSeparator :: ts)
      = parseFrom bound (.within (.object members k :: stack) .value) ts := by
  have hname : step bound (.object members name :: stack) awaiting (.string k)
      = some (.within (.object members k :: stack) .separator) := by
    rcases ha with rfl | rfl <;> rfl
  rw [parseFrom_step hname, parseFrom_step rfl]

-- ============================================================== values

mutual

/-- The tokens of a value where one is awaited put it in place. -/
theorem parseFrom_tokens (bound : Option Nat) : (v : Json) →
    (stack : List Frame) → HasRoom bound stack v.depth → (ts : List Token) →
    parseFrom bound (.within stack .value) (v.tokens ++ ts)
      = parseFrom bound (supply v stack) ts
  | null, _, _, _ => by rw [tokens]; exact parseFrom_step rfl _
  | bool _, _, _, _ => by rw [tokens]; exact parseFrom_step rfl _
  | number _, _, _, _ => by rw [tokens]; exact parseFrom_step rfl _
  | string _, _, _, _ => by rw [tokens]; exact parseFrom_step rfl _
  | array items, stack, h, ts => by
      rw [depth] at h
      rw [tokens, List.cons_append, List.append_assoc, List.singleton_append,
        parseFrom_step (step_beginArray h)]
      cases items with
      | nil => exact parseFrom_step rfl ts
      | cons v rest =>
          rw [depthItems] at h
          have hroom := h.push (.array [])
          rw [itemTokens, List.append_assoc,
            parseFrom_itemOrEnd (tokens_ne_endArray v _),
            parseFrom_tokens bound v _ (hroom.mono (Nat.le_max_left ..))]
          exact parseFrom_moreItems bound rest stack [v]
            (hroom.mono (Nat.le_max_right ..)) ts
  | object members, stack, h, ts => by
      rw [depth] at h
      rw [tokens, List.cons_append, List.append_assoc, List.singleton_append,
        parseFrom_step (step_beginObject h)]
      cases members with
      | nil => exact parseFrom_step rfl ts
      | cons e rest =>
          obtain ⟨k, v⟩ := e
          rw [depthMembers] at h
          have hroom := h.push (.object [] k)
          rw [memberTokens, List.cons_append, List.cons_append, List.append_assoc,
            parseFrom_name bound (Or.inr rfl),
            parseFrom_tokens bound v _ (hroom.mono (Nat.le_max_left ..))]
          exact parseFrom_moreMembers bound rest stack [(k, v)] k
            (hroom.mono (Nat.le_max_right ..)) ts

/-- The tokens of further items complete the array. -/
theorem parseFrom_moreItems (bound : Option Nat) : (items : List Json) →
    (stack : List Frame) → (before : List Json) →
    HasRoom bound (.array before :: stack) (depthItems items) → (ts : List Token) →
    parseFrom bound (.within (.array before :: stack) .commaOrEnd)
        (moreItemTokens items ++ .endArray :: ts)
      = parseFrom bound (supply (array (before.reverse ++ items)) stack) ts
  | [], _, _, _, ts => by
      rw [moreItemTokens, List.append_nil]
      exact parseFrom_step rfl ts
  | v :: rest, stack, before, h, ts => by
      rw [depthItems] at h
      rw [moreItemTokens, List.cons_append, List.append_assoc, parseFrom_step rfl,
        parseFrom_tokens bound v _ (h.mono (Nat.le_max_left ..))]
      have hrest := parseFrom_moreItems bound rest stack (v :: before)
        ((h.replace _).mono (Nat.le_max_right ..)) ts
      rwa [List.reverse_cons, List.append_assoc, List.singleton_append] at hrest

/-- The tokens of further members complete the object. -/
theorem parseFrom_moreMembers (bound : Option Nat) :
    (members : List (String × Json)) → (stack : List Frame) →
    (before : List (String × Json)) → (name : String) →
    HasRoom bound (.object before name :: stack) (depthMembers members) →
    (ts : List Token) →
    parseFrom bound (.within (.object before name :: stack) .commaOrEnd)
        (moreMemberTokens members ++ .endObject :: ts)
      = parseFrom bound (supply (object (before.reverse ++ members)) stack) ts
  | [], _, _, _, _, ts => by
      rw [moreMemberTokens, List.append_nil]
      exact parseFrom_step rfl ts
  | (k, v) :: rest, stack, before, name, h, ts => by
      rw [depthMembers] at h
      rw [moreMemberTokens, List.cons_append, List.cons_append, List.cons_append,
        List.append_assoc, parseFrom_step rfl, parseFrom_name bound (Or.inl rfl),
        parseFrom_tokens bound v _ ((h.replace _).mono (Nat.le_max_left ..))]
      have hrest := parseFrom_moreMembers bound rest stack ((k, v) :: before) k
        ((h.replace _).mono (Nat.le_max_right ..)) ts
      rwa [List.reverse_cons, List.append_assoc, List.singleton_append] at hrest

end

/-- The tokens of a value are the value, if it nests less than a bound. -/
theorem ofTokens?_tokens {bound : Option Nat} {v : Json}
    (h : ∀ b ∈ bound, v.depth < b) : ofTokens? bound v.tokens = some v := by
  have hroom : HasRoom bound [] v.depth := fun b hb => by
    rw [List.length_nil, Nat.zero_add]
    exact h b hb
  have hparse := parseFrom_tokens bound v [] hroom []
  rw [List.append_nil] at hparse
  exact hparse

-- =============================================================== texts

/-- The tokens of a value's text are the value's. -/
theorem lex_chars {v : Json} (h : v.Legible) : lex v.chars = some v.tokens := by
  have hmap : ∀ ts : List Token, (ts.map Lexeme.token).mapM Lexeme.token? = some ts := by
    intro ts
    induction ts with
    | nil => rfl
    | cons t ts ih => simp [Lexeme.token?, ih]
  unfold lex
  rw [lexemes_chars_of_legible h]
  exact hmap v.tokens

/-- A text reads back as it was written. -/
theorem written?_chars {v : Json} (h : v.Legible) (hd : v.depth < maxDepth) :
    written? v.chars = some v := by
  unfold written?
  rw [lex_chars h]
  exact ofTokens?_tokens fun b hb => Option.mem_some_iff.1 hb ▸ hd

/-- What a text says, as it is written and however deep it nests. -/
def said? (text : String) : Option Json := (lex text.toList).bind (ofTokens? none)

/-- The text of a value says the value. -/
theorem said?_text {v : Json} (h : v.Legible) : said? v.text = some v := by
  unfold said? text
  rw [String.toList_ofList, lex_chars h]
  exact ofTokens?_tokens nofun

/-- The text of a value reads back in canonical form. -/
theorem ofText?_text {v : Json} (h : v.Legible) (hd : v.depth < maxDepth) :
    ofText? v.text = some v.canonical := by
  unfold ofText? text
  rw [String.toList_ofList, written?_chars h hd]
  rfl

/-- So do the bytes of the text. -/
theorem ofBytes?_text {v : Json} (h : v.Legible) (hd : v.depth < maxDepth) :
    ofBytes? v.text.toUTF8 = some v.canonical := by
  unfold ofBytes?
  rw [Bytes.text?_toUTF8, Option.bind_some, ofText?_text h hd]

end ProviderLink.Json
