/-
Tables under construction. What may still be added to a table depends on
how it came about: by a header of its own, on the way to another header,
or through a dotted key. A header defines a table once, though after the
headers below it; a dotted key adds only to what dotted keys made. The
entries stay in the order in which they were put in, for a nested table
whose first key is that of a date-time stands for one.
-/
import ProviderLink.Dict
import ProviderLink.Toml

namespace ProviderLink.Toml

/-- How a table came about. -/
inductive Origin
  /-- By a header of its own. -/
  | header
  /-- On the way to the table of another header. -/
  | passing
  /-- Through a dotted key. -/
  | dotted
  deriving DecidableEq, Repr

/-- What stands at a key. -/
inductive Node
  | scalar (v : Toml)
  | array (items : List Node)
  /-- A table within a line, to which nothing is added. -/
  | inline (entries : List (String × Node))
  | table (origin : Origin) (entries : List (String × Node))
  /-- The tables of an array, one for each header of it. -/
  | tables (elements : List (List (String × Node)))

/-- Entries in the order in which they were put in. -/
abbrev Entries := List (String × Node)

namespace Entries

/-- The entries with this one in the place of the one of its key, or at the end. -/
def put (key : String) (node : Node) (es : Entries) : Entries :=
  match es with
  | [] => [(key, node)]
  | (k, n) :: rest => if k = key then (key, node) :: rest else (k, n) :: put key node rest

/-- Changes the table at the end of a path and makes what is missing on the way. Of an array of
tables the last is meant. -/
def alter (dotted : Bool) (change : Origin → Entries → Option Entries) :
    (path : List String) → Origin → Entries → Option Entries
  | [], origin, es => change origin es
  | key :: path, _, es =>
    match Dict.get? key es with
    | none => do
      let origin := if dotted then Origin.dotted else .passing
      return put key (.table origin (← alter dotted change path origin [])) es
    | some (.scalar _) | some (.array _) | some (.inline _) => none
    | some (.tables elements) =>
      match elements.getLast? with
      | none => none
      | some last => do
        let last ← alter dotted change path .header last
        return put key (.tables (elements.dropLast ++ [last])) es
    | some (.table origin inner) =>
      if dotted ∧ origin = .header then none
      else do return put key (.table origin (← alter dotted change path origin inner)) es

/-- Puts in a value under a dotted key. -/
def insert (path : List String) (key : String) (v : Node) (es : Entries) : Option Entries :=
  alter (!path.isEmpty) (fun origin es =>
    if (origin = .dotted ↔ path = []) ∨ Dict.has key es then none
    else some (es ++ [(key, v)])) path .header es

/-- The table at the end of a path, empty if the path ends before it. -/
def descend : (path : List String) → Entries → Option Entries
  | [], es => some es
  | key :: path, es =>
    match Dict.get? key es with
    | none => some []
    | some (.table _ inner) => descend path inner
    | some (.tables elements) => elements.getLast?.bind (descend path)
    | some (.scalar _) | some (.array _) | some (.inline _) => none

end Entries

-- ============================================================ document

/-- A statement of a document. -/
inductive Statement
  | pair (path : List String) (key : String) (v : Node)
  /-- A header: the pairs that follow are those of this table. -/
  | table (path : List String) (key : String)
  /-- A header of one more table of this array. -/
  | element (path : List String) (key : String)

/-- Where the pairs of a header go. -/
inductive Target
  | root
  | table (path : List String) (key : String)
  | element (path : List String) (key : String)

/-- A document read in part: the tables whose pairs are complete, and the one at work. -/
structure Draft where
  root : Entries
  target : Target
  current : Entries

namespace Draft

/-- Nothing read. -/
def empty : Draft := ⟨[], .root, []⟩

/-- The root with the table at work in its place. -/
def complete (d : Draft) : Option Entries :=
  match d.target with
  | .root => some d.current
  | .table path key =>
    Entries.alter false (fun _ es => some (es ++ [(key, .table .header d.current)])) path .header
      d.root
  | .element path key =>
    Entries.alter false (fun _ es =>
      match Dict.get? key es with
      | none => some (Entries.put key (.tables [d.current]) es)
      | some (.tables elements) => some (Entries.put key (.tables (elements ++ [d.current])) es)
      | some _ => none) path .header d.root

/-- Starts the table of a header, which has what headers below it put there before. -/
def openTable (path : List String) (key : String) (root : Entries) : Option Draft := do
  match Dict.get? key (← root.descend path) with
  | none => return ⟨root, .table path key, []⟩
  | some (.table .passing es) =>
    let root ← Entries.alter false (fun _ es => some (Dict.erase key es)) path .header root
    return ⟨root, .table path key, es⟩
  | some _ => none

/-- Starts one more table of an array. -/
def openElement (path : List String) (key : String) (root : Entries) : Option Draft := do
  let d : Draft := ⟨root, .element path key, []⟩
  let _ ← d.complete
  return d

def take (d : Draft) : Statement → Option Draft
  | .pair path key v => do return { d with current := ← Entries.insert path key v d.current }
  | .table path key => do openTable path key (← d.complete)
  | .element path key => do openElement path key (← d.complete)

end Draft

/-- The entries of a document. -/
def Entries.ofStatements? (ss : List Statement) : Option Entries := do
  let d ← ss.foldlM Draft.take .empty
  d.complete

-- ============================================================== values

mutual

def Node.value? : Node → Option Toml
  | .scalar v => some v
  | .array items => (Node.items? items).map Toml.array
  | .inline es | .table _ es => Node.table? es
  | .tables elements => (Node.elements? elements).map Toml.array

/-- The table of some entries. If the first key is that of a date-time, they stand for the
date-time of its text, and the others do not matter. -/
def Node.table? : List (String × Node) → Option Toml
  | [] => some (.table [])
  | (key, node) :: rest =>
    if key = marker then
      match node with
      | .scalar (.string s) => (DateTime.ofText? s).map .datetime
      | _ => none
    else do
      let v ← Node.value? node
      return .table (Dict.ofList ((key, v) :: (← Node.pairs? rest)))

/-- The values of an array's items. -/
def Node.items? : List Node → Option (List Toml)
  | [] => some []
  | node :: rest => do
    let v ← Node.value? node
    return v :: (← Node.items? rest)

/-- The values of a table's entries. -/
def Node.pairs? : List (String × Node) → Option (List (String × Toml))
  | [] => some []
  | (key, node) :: rest => do
    let v ← Node.value? node
    return (key, v) :: (← Node.pairs? rest)

/-- The tables of an array. -/
def Node.elements? : List (List (String × Node)) → Option (List Toml)
  | [] => some []
  | es :: rest => do
    let v ← Node.table? es
    return v :: (← Node.elements? rest)

end

end ProviderLink.Toml
