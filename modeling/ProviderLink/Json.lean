/-
Dynamic values. Action inputs, outputs, schemas, types and messages are
all exchanged as JSON, so one value type serves the whole library. The
members of an object are a list: reading always delivers it in
increasing key order with no key twice, and what is built for printing
may list its members in the order they are to be written. `canonical`
leads from the second to the first.
-/
import ProviderLink.Dict
import ProviderLink.Number

namespace ProviderLink

/-- A JSON value. -/
inductive Json
  | null
  | bool (b : Bool)
  | number (n : Number)
  | string (s : String)
  | array (items : List Json)
  | object (members : List (String × Json))
  deriving Inhabited

namespace Json

-- ============================================================ equality

mutual

/-- Decides whether two values are the same. -/
def decEq : (v w : Json) → Decidable (v = w)
  | null, null => isTrue rfl
  | bool a, bool b => if h : a = b then isTrue (by rw [h]) else isFalse (by simpa)
  | number a, number b => if h : a = b then isTrue (by rw [h]) else isFalse (by simpa)
  | string a, string b => if h : a = b then isTrue (by rw [h]) else isFalse (by simpa)
  | array a, array b =>
    match decEqItems a b with
    | isTrue h => isTrue (by rw [h])
    | isFalse h => isFalse (by simpa)
  | object a, object b =>
    match decEqMembers a b with
    | isTrue h => isTrue (by rw [h])
    | isFalse h => isFalse (by simpa)
  | null, bool _ | null, number _ | null, string _ | null, array _ | null, object _
  | bool _, null | bool _, number _ | bool _, string _ | bool _, array _ | bool _, object _
  | number _, null | number _, bool _ | number _, string _ | number _, array _
  | number _, object _
  | string _, null | string _, bool _ | string _, number _ | string _, array _
  | string _, object _
  | array _, null | array _, bool _ | array _, number _ | array _, string _ | array _, object _
  | object _, null | object _, bool _ | object _, number _ | object _, string _
  | object _, array _ => isFalse (by simp)

/-- Decides whether two lists of items are the same. -/
def decEqItems : (xs ys : List Json) → Decidable (xs = ys)
  | [], [] => isTrue rfl
  | x :: xs, y :: ys =>
    match decEq x y, decEqItems xs ys with
    | isTrue h, isTrue h' => isTrue (by rw [h, h'])
    | isFalse h, _ => isFalse (by simp [h])
    | _, isFalse h => isFalse (by simp [h])
  | [], _ :: _ | _ :: _, [] => isFalse (by simp)

/-- Decides whether two lists of members are the same. -/
def decEqMembers : (xs ys : List (String × Json)) → Decidable (xs = ys)
  | [], [] => isTrue rfl
  | (j, x) :: xs, (k, y) :: ys =>
    if hk : j = k then
      match decEq x y, decEqMembers xs ys with
      | isTrue h, isTrue h' => isTrue (by rw [hk, h, h'])
      | isFalse h, _ => isFalse (by simp [h])
      | _, isFalse h => isFalse (by simp [h])
    else isFalse (by simp [hk])
  | [], _ :: _ | _ :: _, [] => isFalse (by simp)

end

instance : DecidableEq Json := decEq

-- =========================================================== accessors

/-- The text of a string value. -/
def string? : Json → Option String
  | string s => some s
  | _ => none

/-- The truth value of a boolean. -/
def bool? : Json → Option Bool
  | bool b => some b
  | _ => none

/-- The member of an object with this name. -/
def member? (name : String) : Json → Option Json
  | object members => Dict.get? name members
  | _ => none

/-- The string member of an object with this name. -/
def text? (name : String) (v : Json) : Option String := (v.member? name).bind string?

/-- A number, or `null` for what is no finite double. -/
def ofFloat? : Option Binary64 → Json
  | some x => number (.float x)
  | none => null

def strings (ss : List String) : Json := array (ss.map string)

/-- An absent value is `null`. -/
def orNull : Option Json → Json
  | some v => v
  | none => null

-- =========================================================== canonical

mutual

/-- The value as reading its text delivers it: members in key order, the last of a name. -/
def canonical : Json → Json
  | array items => array (canonicalItems items)
  | object members => object (Dict.ofList (canonicalMembers members))
  | null => null
  | bool b => bool b
  | number n => number n
  | string s => string s

/-- Every item in canonical form. -/
def canonicalItems : List Json → List Json
  | [] => []
  | v :: rest => canonical v :: canonicalItems rest

/-- Every member's value in canonical form. -/
def canonicalMembers : List (String × Json) → List (String × Json)
  | [] => []
  | (k, v) :: rest => (k, canonical v) :: canonicalMembers rest

end

mutual

/-- Every object in the value has its members in increasing key order, each key once. -/
def Ordered : Json → Prop
  | array items => OrderedItems items
  | object members => Dict.Sorted members ∧ OrderedMembers members
  | null | bool _ | number _ | string _ => True

def OrderedItems : List Json → Prop
  | [] => True
  | v :: rest => Ordered v ∧ OrderedItems rest

/-- Every member's value is ordered. -/
def OrderedMembers : List (String × Json) → Prop
  | [] => True
  | (_, v) :: rest => Ordered v ∧ OrderedMembers rest

end

-- =============================================================== depth

mutual

/-- How many arrays and objects stand inside one another. -/
def depth : Json → Nat
  | array items => depthItems items + 1
  | object members => depthMembers members + 1
  | null | bool _ | number _ | string _ => 0

/-- The depth of the deepest item. -/
def depthItems : List Json → Nat
  | [] => 0
  | v :: rest => max (depth v) (depthItems rest)

/-- The depth of the deepest member. -/
def depthMembers : List (String × Json) → Nat
  | [] => 0
  | (_, v) :: rest => max (depth v) (depthMembers rest)

end

end Json

end ProviderLink
