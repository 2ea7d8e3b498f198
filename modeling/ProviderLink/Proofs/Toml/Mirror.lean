/-
What the JSON text of a TOML table is read as. It mirrors the table
(`ofBytes?_entriesJson`): tables are objects of the same keys and arrays
are arrays of as many items, at whatever depth, and what stands in them
keeps its value, with two exceptions. A date-time, for which JSON has no
value, is an object of one member that holds its text, and takes up one
level of nesting for it. And a float is the one that its text is read as,
which for some is not the same but close to it (`Number.Reads`).

In a nested table the entries are written in another order than that of
their keys, which reading restores; what matters is that they are the same
entries (`perm_placedJson`).
-/
import ProviderLink.Proofs.Json.Rereading
import ProviderLink.Toml

namespace ProviderLink.Toml

-- ================================================ statement vocabulary

mutual

/-- Every table in the value has its entries in increasing key order, each key once. -/
def Ordered : Toml → Prop
  | array items => OrderedItems items
  | table entries => Dict.Sorted entries ∧ OrderedEntries entries
  | string _ | integer _ | float _ | boolean _ | datetime _ => True

def OrderedItems : List Toml → Prop
  | [] => True
  | v :: rest => Ordered v ∧ OrderedItems rest

/-- Every entry's value is ordered. -/
def OrderedEntries : List (String × Toml) → Prop
  | [] => True
  | (_, v) :: rest => Ordered v ∧ OrderedEntries rest

end

mutual

/-- How many tables, arrays and date-times stand inside one another. -/
def depth : Toml → Nat
  | array items => depthItems items + 1
  | table entries => depthEntries entries + 1
  | datetime _ => 1
  | string _ | integer _ | float _ | boolean _ => 0

/-- The depth of the deepest item. -/
def depthItems : List Toml → Nat
  | [] => 0
  | v :: rest => max (depth v) (depthItems rest)

/-- The depth of the deepest entry. -/
def depthEntries : List (String × Toml) → Nat
  | [] => 0
  | (_, v) :: rest => max (depth v) (depthEntries rest)

end

mutual

/-- The JSON value has the shape of the TOML value and the same in it. -/
inductive Mirrors : Toml → Json → Prop
  | string (s : String) : Mirrors (.string s) (.string s)
  | integer (i : Int64) : Mirrors (.integer i) (.number (.ofInt64 i))
  | float {x y : Binary64} (h : Number.Reads x y) :
    Mirrors (.float (some x)) (.number (.float y))
  | notFinite : Mirrors (.float none) .null
  | boolean (b : Bool) : Mirrors (.boolean b) (.bool b)
  | datetime (d : DateTime) : Mirrors (.datetime d) (.object [(marker, .string d.text)])
  | array {items : List Toml} {vs : List Json} (h : MirrorsItems items vs) :
    Mirrors (.array items) (.array vs)
  | table {entries : List (String × Toml)} {members : List (String × Json)}
    (h : MirrorsEntries entries members) : Mirrors (.table entries) (.object members)

/-- As many values, each of which mirrors the item in its place. -/
inductive MirrorsItems : List Toml → List Json → Prop
  | nil : MirrorsItems [] []
  | cons {t : Toml} {v : Json} {items : List Toml} {vs : List Json} (h : Mirrors t v)
    (rest : MirrorsItems items vs) : MirrorsItems (t :: items) (v :: vs)

/-- The same keys, under each of which a value mirrors the entry. -/
inductive MirrorsEntries : List (String × Toml) → List (String × Json) → Prop
  | nil : MirrorsEntries [] []
  | cons (key : String) {t : Toml} {v : Json} {entries : List (String × Toml)}
    {members : List (String × Json)} (h : Mirrors t v) (rest : MirrorsEntries entries members) :
    MirrorsEntries ((key, t) :: entries) ((key, v) :: members)

end

-- =============================================================== places

/-- The members of a nested table are those of its entries, in another order. -/
theorem perm_placedJson (entries : List (String × Toml)) :
    (placedJson .first entries ++ placedJson .second entries ++ placedJson .last entries).Perm
      (Dict.mapValues toJson entries) := by
  induction entries with
  | nil => exact .refl _
  | cons e entries ih =>
      obtain ⟨key, v⟩ := e
      have hentry : Dict.mapValues toJson ((key, v) :: entries)
          = (key, v.toJson) :: Dict.mapValues toJson entries := rfl
      have hput := ih.cons (key, v.toJson)
      rw [hentry]
      simp only [placedJson]
      cases hplace : place v with
      | first =>
          simpa using hput
      | second =>
          refine .trans ?_ hput
          simp only [reduceCtorEq, if_true, if_false, List.append_assoc, List.cons_append]
          exact List.perm_middle
      | last =>
          refine .trans ?_ hput
          simp only [reduceCtorEq, if_true, if_false]
          exact List.perm_middle

-- =============================================================== values

mutual

/-- What is read of the text of a value mirrors it. -/
theorem mirrors_readBack : (t : Toml) → t.Ordered → Mirrors t t.toJson.readBack
  | string s, _ => .string s
  | integer i, _ => by
      have hread : Json.reread (.ofInt64 i) = .ofInt64 i :=
        Json.reread_eq_iff.2 (Number.legible_int ..)
      rw [toJson, Json.readBack, Json.mapNumbers, hread, Json.canonical]
      exact .integer i
  | float none, _ => .notFinite
  | float (some x), _ => by
      obtain ⟨y, hy⟩ := Number.exists_reads x
      have hread : Json.reread (.float x) = .float y :=
        Option.some.inj ((Json.ofChars?_chars (.float x)).symm.trans hy.text)
      rw [toJson, Json.ofFloat?, Json.readBack, Json.mapNumbers, hread, Json.canonical]
      exact .float hy
  | boolean b, _ => .boolean b
  | datetime d, _ => .datetime d
  | array items, h => by
      rw [toJson, Json.readBack_array]
      exact .array (mirrorsItems_readBack items h)
  | table entries, h => by
      rw [Ordered] at h
      rw [toJson, Json.readBack_object ((Dict.sorted_mapValues toJson).2 h.1)
        (perm_placedJson entries)]
      exact .table (mirrorsEntries_readBack entries h.2)

theorem mirrorsItems_readBack : (items : List Toml) → OrderedItems items →
    MirrorsItems items ((itemsJson items).map Json.readBack)
  | [], _ => .nil
  | t :: rest, h => .cons (mirrors_readBack t h.1) (mirrorsItems_readBack rest h.2)

theorem mirrorsEntries_readBack : (entries : List (String × Toml)) → OrderedEntries entries →
    MirrorsEntries entries (Dict.mapValues Json.readBack (Dict.mapValues toJson entries))
  | [], _ => .nil
  | (key, t) :: rest, h => .cons key (mirrors_readBack t h.1) (mirrorsEntries_readBack rest h.2)

end

mutual

/-- The JSON value nests no deeper. -/
theorem depth_toJson_le : (t : Toml) → t.toJson.depth ≤ t.depth
  | string _ => Nat.le_refl _
  | integer _ => Nat.le_refl _
  | float none => Nat.le_refl _
  | float (some _) => Nat.le_refl _
  | boolean _ => Nat.le_refl _
  | datetime _ => Nat.le_refl _
  | array items => Nat.succ_le_succ (depthItems_itemsJson_le items)
  | table entries => by
      rw [toJson, Json.depth, depth]
      refine Nat.succ_le_succ (Json.depthMembers_le.2 fun e he => ?_)
      exact Json.depthMembers_le.1 (depthMembers_toJson_le entries) e
        ((perm_placedJson entries).mem_iff.1 he)

theorem depthItems_itemsJson_le : (items : List Toml) →
    Json.depthItems (itemsJson items) ≤ depthItems items
  | [] => Nat.le_refl _
  | t :: rest => by
      rw [itemsJson, Json.depthItems, depthItems]
      exact max_le_max (depth_toJson_le t) (depthItems_itemsJson_le rest)

theorem depthMembers_toJson_le : (entries : List (String × Toml)) →
    Json.depthMembers (Dict.mapValues toJson entries) ≤ depthEntries entries
  | [] => Nat.le_refl _
  | (key, t) :: rest => by
      have hentry : Dict.mapValues toJson ((key, t) :: rest)
          = (key, t.toJson) :: Dict.mapValues toJson rest := rfl
      rw [hentry, Json.depthMembers, depthEntries]
      exact max_le_max (depth_toJson_le t) (depthMembers_toJson_le rest)

end

/-- What is read of the text of a table mirrors the table, if it does not nest too deep. -/
theorem ofBytes?_entriesJson {entries : Dict String Toml} (h : (table entries).Ordered)
    (hdepth : (table entries).depth < Json.maxDepth) :
    ∃ v, Json.ofBytes? (entriesJson entries).text.toUTF8 = some v
      ∧ Mirrors (table entries) v := by
  rw [Ordered] at h
  have hsorted := (Dict.sorted_mapValues toJson).2 h.1
  have hlevels : (entriesJson entries).depth < Json.maxDepth :=
    Nat.lt_of_le_of_lt (Nat.succ_le_succ (depthMembers_toJson_le entries)) hdepth
  have hread : (entriesJson entries).readBack
      = .object (Dict.mapValues Json.readBack (Dict.mapValues toJson entries)) :=
    Json.readBack_object hsorted (.refl _)
  refine ⟨_, Json.ofBytes?_text_readBack hlevels, ?_⟩
  rw [hread]
  exact .table (mirrorsEntries_readBack entries h.2)

end ProviderLink.Toml
