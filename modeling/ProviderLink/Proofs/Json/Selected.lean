/-
Reading selected fields from the text of an object. The lexemes of a
text are cut into the lexemes of its members by counting what is open,
and each member is then read alone.

Counting works because the tokens of a value close what they open: in
front of anything, from any level above the outermost, they are gone
past as one piece (`Balanced`). The tokens of a value are balanced, so
the parts of an object's tokens are the tokens of its members
(`membersFrom_tokens`), and a reader that takes each member for what it
is reads the object itself (`selectFields_tokens`).
-/
import ProviderLink.Json.Selected
import ProviderLink.Proofs.Json.Parsing

namespace ProviderLink.Json

-- ============================================================ balanced

def lexed (ts : List Token) : List Lexeme := ts.map .token

theorem lexed_append (ts us : List Token) : lexed (ts ++ us) = lexed ts ++ lexed us :=
  List.map_append

/-- Inside something open, the tokens are gone past as one piece. -/
def Balanced (ts : List Token) : Prop :=
  ∀ depth ls, takeValue (depth + 1) (lexed ts ++ ls)
    = (lexed ts ++ (takeValue (depth + 1) ls).1, (takeValue (depth + 1) ls).2)

/-- A token that leaves something open is passed. -/
theorem takeValue_cons {depth level : Nat} {t : Token}
    (h : nesting depth t = level + 1) (ls : List Lexeme) :
    takeValue depth (.token t :: ls)
      = (.token t :: (takeValue (level + 1) ls).1, (takeValue (level + 1) ls).2) := by
  have hform : nesting depth (Lexeme.token t).form = level + 1 := h
  simp only [takeValue, hform]
  rw [if_neg (Nat.succ_ne_zero level)]

/-- A token that leaves nothing open is the last. -/
theorem takeValue_last {depth : Nat} {t : Token} (h : nesting depth t = 0)
    (ls : List Lexeme) : takeValue depth (.token t :: ls) = ([.token t], ls) := by
  have hform : nesting depth (Lexeme.token t).form = 0 := h
  simp only [takeValue, hform, ↓reduceIte]

namespace Balanced

theorem nil : Balanced [] := fun _ _ => rfl

/-- A token that neither opens nor closes, in front of others. -/
theorem cons {t : Token} {ts : List Token} (ht : ∀ depth, nesting depth t = depth)
    (hts : Balanced ts) : Balanced (t :: ts) := by
  intro depth ls
  have hcons : lexed (t :: ts) ++ ls = .token t :: (lexed ts ++ ls) := rfl
  rw [hcons, takeValue_cons (ht (depth + 1)), hts depth ls]
  rfl

/-- One piece after another. -/
theorem append {ts us : List Token} (hts : Balanced ts) (hus : Balanced us) :
    Balanced (ts ++ us) := by
  intro depth ls
  rw [lexed_append, List.append_assoc, hts, hus, List.append_assoc]

/-- A piece between what opens and what closes. -/
theorem enclose {first last : Token} {ts : List Token}
    (hfirst : ∀ depth, nesting depth first = depth + 1)
    (hlast : ∀ depth, nesting depth last = depth - 1) (hts : Balanced ts) :
    Balanced (first :: (ts ++ [last])) := by
  intro depth ls
  have hcons : lexed (first :: (ts ++ [last])) ++ ls
      = .token first :: (lexed ts ++ (.token last :: ls)) := by
    rw [lexed, List.map_cons, List.map_append, List.cons_append, List.append_assoc]
    rfl
  have hclose : nesting (depth + 2) last = depth + 1 := hlast (depth + 2)
  rw [hcons, takeValue_cons (hfirst (depth + 1)), hts (depth + 1), takeValue_cons hclose]
  simp [lexed]

/-- The same piece where nothing is open is a whole value. -/
theorem takeValue_enclose {first last : Token} {ts : List Token}
    (hfirst : ∀ depth, nesting depth first = depth + 1)
    (hlast : ∀ depth, nesting depth last = depth - 1) (hts : Balanced ts)
    (ls : List Lexeme) :
    takeValue 0 (lexed (first :: (ts ++ [last])) ++ ls)
      = (lexed (first :: (ts ++ [last])), ls) := by
  have hcons : lexed (first :: (ts ++ [last])) ++ ls
      = .token first :: (lexed ts ++ (.token last :: ls)) := by
    rw [lexed, List.map_cons, List.map_append, List.cons_append, List.append_assoc]
    rfl
  rw [hcons, takeValue_cons (hfirst 0), hts 0, takeValue_last (hlast 1)]
  simp [lexed]

end Balanced

mutual

/-- The tokens of a value close what they open. -/
theorem balanced_tokens : (v : Json) → Balanced v.tokens
  | null => .cons (fun _ => rfl) .nil
  | bool _ => .cons (fun _ => rfl) .nil
  | number _ => .cons (fun _ => rfl) .nil
  | string _ => .cons (fun _ => rfl) .nil
  | array items => by
      rw [tokens]
      exact .enclose (fun _ => rfl) (fun _ => rfl) (balanced_itemTokens items)
  | object members => by
      rw [tokens]
      exact .enclose (fun _ => rfl) (fun _ => rfl) (balanced_memberTokens members)

theorem balanced_itemTokens : (items : List Json) → Balanced (itemTokens items)
  | [] => .nil
  | v :: rest => (balanced_tokens v).append (balanced_moreItemTokens rest)

theorem balanced_moreItemTokens : (items : List Json) → Balanced (moreItemTokens items)
  | [] => .nil
  | v :: rest =>
    .cons (fun _ => rfl) ((balanced_tokens v).append (balanced_moreItemTokens rest))

theorem balanced_memberTokens : (members : List (String × Json)) →
    Balanced (memberTokens members)
  | [] => .nil
  | (_, v) :: rest =>
    .cons (fun _ => rfl) (.cons (fun _ => rfl)
      ((balanced_tokens v).append (balanced_moreMemberTokens rest)))

theorem balanced_moreMemberTokens : (members : List (String × Json)) →
    Balanced (moreMemberTokens members)
  | [] => .nil
  | (_, v) :: rest =>
    .cons (fun _ => rfl) (.cons (fun _ => rfl) (.cons (fun _ => rfl)
      ((balanced_tokens v).append (balanced_moreMemberTokens rest))))

end

/-- The value at the beginning is cut off whole. -/
theorem takeValue_tokens (v : Json) (ls : List Lexeme) :
    takeValue 0 (lexed v.tokens ++ ls) = (lexed v.tokens, ls) := by
  cases v with
  | null => exact takeValue_last rfl ls
  | bool => exact takeValue_last rfl ls
  | number => exact takeValue_last rfl ls
  | string => exact takeValue_last rfl ls
  | array items =>
      rw [tokens]
      exact (balanced_itemTokens items).takeValue_enclose (fun _ => rfl) (fun _ => rfl) ls
  | object members =>
      rw [tokens]
      exact (balanced_memberTokens members).takeValue_enclose (fun _ => rfl)
        (fun _ => rfl) ls

-- =============================================================== parts

/-- At the end of an object there are no more parts. -/
theorem membersFrom_end (ls : List Lexeme) (h : ls.length ≤ 1) : membersFrom ls = [] := by
  rw [membersFrom]
  rintro _ _ _ rfl
  exact absurd h (by simp)

/-- The parts of an object are its names with the tokens of its values. -/
theorem membersFrom_tokens (members : List (String × Json)) :
    membersFrom (lexed (memberTokens members ++ [.endObject]))
      = members.map fun e => (.token (.string e.1), lexed e.2.tokens) := by
  induction members with
  | nil =>
      rw [memberTokens]
      exact membersFrom_end [_] (Nat.le_refl 1)
  | cons e members ih =>
      obtain ⟨k, v⟩ := e
      -- behind the value stand the end, or a comma and the other members
      have hrest : membersFrom ((lexed (moreMemberTokens members ++ [.endObject])).drop 1)
          = members.map fun e => (.token (.string e.1), lexed e.2.tokens) := by
        rw [← ih]
        cases members with
        | nil =>
            rw [moreMemberTokens, memberTokens]
            exact (membersFrom_end [] (Nat.zero_le 1)).trans
              (membersFrom_end [_] (Nat.le_refl 1)).symm
        | cons e rest => rw [moreMemberTokens, memberTokens]; rfl
      have hcons : lexed (memberTokens ((k, v) :: members) ++ [.endObject])
          = .token (.string k) :: .token .nameSeparator
            :: (lexed v.tokens ++ lexed (moreMemberTokens members ++ [.endObject])) := by
        rw [memberTokens, ← lexed_append, List.cons_append, List.cons_append,
          List.append_assoc]
        rfl
      rw [hcons, membersFrom, takeValue_tokens, hrest]
      rfl

/-- Members are selected as what they are, if each has the name of a field and its reader takes
it so. -/
theorem selectMembers_tokens {names : List String} {read : FieldReader}
    {members : List (String × Json)}
    (h : ∀ e ∈ members, e.1 ∈ names ∧ read e.1 (lexed e.2.tokens) = some e.2) :
    selectMembers names read
        (members.map fun e => (.token (.string e.1), lexed e.2.tokens))
      = some members := by
  induction members with
  | nil => rfl
  | cons e members ih =>
      obtain ⟨k, v⟩ := e
      obtain ⟨hname, hread⟩ := h _ (List.mem_cons_self ..)
      have hrest := ih fun e he => h e (List.mem_cons_of_mem _ he)
      rw [List.map_cons, selectMembers, if_pos (List.contains_iff_mem.2 hname), hread,
        hrest]
      rfl

/-- What is selected from an object is selected from its members. -/
theorem selectFields_object (bound : Nat) (names : List String) (read : FieldReader)
    (members : List (String × Json)) :
    selectFields bound names read (lexed (object members).tokens)
      = (selectMembers names read
          (members.map fun e => (.token (.string e.1), lexed e.2.tokens))).map object := by
  have hcons : lexed (object members).tokens
      = .token .beginObject :: lexed (memberTokens members ++ [.endObject]) := by
    rw [tokens]
    rfl
  rw [hcons, selectFields, membersFrom_tokens]

/-- So an object is selected as what it is. -/
theorem selectFields_tokens (bound : Nat) {names : List String} {read : FieldReader}
    {members : List (String × Json)}
    (h : ∀ e ∈ members, e.1 ∈ names ∧ read e.1 (lexed e.2.tokens) = some e.2) :
    selectFields bound names read (lexed (object members).tokens)
      = some (object members) := by
  rw [selectFields_object, selectMembers_tokens h]
  rfl

-- ============================================================== values

theorem mapM_token?_lexed (ts : List Token) : (lexed ts).mapM Lexeme.token? = some ts := by
  induction ts with
  | nil => rfl
  | cons t ts ih =>
      have hcons : lexed (t :: ts) = .token t :: lexed ts := rfl
      simp [hcons, Lexeme.token?, ih]

/-- The lexemes of a value are the value, if it nests less than a bound. -/
theorem ofLexemes?_tokens {bound : Nat} {v : Json} (h : v.depth < bound) :
    ofLexemes? bound (lexed v.tokens) = some v := by
  unfold ofLexemes?
  rw [mapM_token?_lexed]
  exact ofTokens?_tokens fun b hb => Option.mem_some_iff.1 hb ▸ h

/-- The lexemes of a value have the form of one. -/
theorem isForm_tokens (v : Json) : isForm (lexed v.tokens) = true := by
  have hform : (lexed v.tokens).map Lexeme.form = v.tokens := by
    rw [lexed, List.map_map]
    exact List.map_id _
  unfold isForm
  rw [hform, ofTokens?_tokens fun b hb => by cases hb]
  rfl

end ProviderLink.Json
