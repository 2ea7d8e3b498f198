/-
Reading a record straight from a text when only its own fields matter.
Whatever else the text holds must have the form of JSON, but its numbers
may be of any size, its strings may have halves of surrogate pairs, and
it may nest to any depth: it is gone past, and no value is made of it.
-/
import ProviderLink.Json.Parser

namespace ProviderLink.Json

/-- Whether some lexemes have the form of one value. -/
def isForm (ls : List Lexeme) : Bool :=
  (ofTokens? none (ls.map Lexeme.form)).isSome

/-- The value of lexemes that nest fewer levels than `bound`. -/
def ofLexemes? (bound : Nat) (ls : List Lexeme) : Option Json := do
  ofTokens? (some bound) (← ls.mapM Lexeme.token?)

-- =============================================================== parts

/-- How many arrays and objects are open after a token. -/
def nesting (depth : Nat) : Token → Nat
  | .beginArray | .beginObject => depth + 1
  | .endArray | .endObject => depth - 1
  | _ => depth

/-- The lexemes of the value at the beginning, and what follows it. -/
def takeValue (depth : Nat) : List Lexeme → List Lexeme × List Lexeme
  | [] => ([], [])
  | l :: ls =>
    let depth := nesting depth l.form
    if depth = 0 then ([l], ls)
    else
      let (value, rest) := takeValue depth ls
      (l :: value, rest)

theorem length_takeValue_le (ls : List Lexeme) (depth : Nat) :
    (takeValue depth ls).2.length ≤ ls.length := by
  induction ls generalizing depth with
  | nil => simp [takeValue]
  | cons l ls ih =>
    simp only [takeValue]
    split
    · simp
    · exact Nat.le_succ_of_le (ih _)

/-- The names and values of an object behind its beginning. -/
def membersFrom : List Lexeme → List (Lexeme × List Lexeme)
  | name :: _ :: ls =>
    (name, (takeValue 0 ls).1) :: membersFrom ((takeValue 0 ls).2.drop 1)
  | _ => []
termination_by ls => ls.length
decreasing_by
  have := length_takeValue_le ls 0
  simp only [List.length_drop, List.length_cons]
  omega

/-- The items of an array behind its beginning. -/
def itemsFrom : List Lexeme → List (List Lexeme)
  | l :: m :: ls =>
    (takeValue 0 (l :: m :: ls)).1 :: itemsFrom ((takeValue 0 (l :: m :: ls)).2.drop 1)
  | _ => []
termination_by ls => ls.length
decreasing_by
  have := length_takeValue_le (l :: m :: ls) 0
  simp only [List.length_drop, List.length_cons] at this ⊢
  omega

-- ============================================================= records

/-- A function that makes a value of the lexemes of a field. -/
abbrev FieldReader := (name : String) → List Lexeme → Option Json

/-- The members that are fields of a record; every name must have a value. -/
def selectMembers (names : List String) (read : FieldReader) :
    List (Lexeme × List Lexeme) → Option (List (String × Json))
  | [] => some []
  | (.token (.string name), value) :: rest =>
    if names.contains name then do
      let v ← read name value
      return (name, v) :: (← selectMembers names read rest)
    else selectMembers names read rest
  | _ :: _ => none

/-- The items of an array that lists the fields of a record; further items have no name. -/
def selectItems (read : FieldReader) : List String → List (List Lexeme) → Option (List Json)
  | _, [] => some []
  | names, value :: rest => do
    let v ← read (names.headD "") value
    return v :: (← selectItems read names.tail rest)

/-- The record of some lexemes as an object of its fields, or as the array that lists them. -/
def selectFields (bound : Nat) (names : List String) (read : FieldReader) :
    List Lexeme → Option Json
  | .token .beginObject :: ls => (selectMembers names read (membersFrom ls)).map object
  | .token .beginArray :: ls => (selectItems read names (itemsFrom ls)).map array
  | ls => ofLexemes? bound ls

end ProviderLink.Json
