/-
Of a document that is read, every table has its entries in key order
(`Node.Plain.ordered`). Each table is put in order when its value is
taken, so all it takes is that no scalar holds a table that is not
(`Plain`). The values that are read are plain (`plain_value?`), and so is
the document after each statement (`Draft.plain_take`), whatever tables it
opens, alters or puts back (`Entries.plain_alter`).
-/
import ProviderLink.Proofs.Toml.Mirror
import ProviderLink.Toml.Document

namespace ProviderLink.Toml

-- ================================================ statement vocabulary

/-- What stands as a scalar is in order, at every level of the node. -/
inductive Node.Plain : Node → Prop
  | scalar {v : Toml} (h : v.Ordered) : Plain (.scalar v)
  | array {items : List Node} (h : ∀ node ∈ items, Plain node) : Plain (.array items)
  | inline {es : Entries} (h : ∀ e ∈ es, Plain e.2) : Plain (.inline es)
  | table {origin : Origin} {es : Entries} (h : ∀ e ∈ es, Plain e.2) : Plain (.table origin es)
  | tables {elements : List Entries} (h : ∀ es ∈ elements, ∀ e ∈ es, Plain e.2) :
    Plain (.tables elements)

/-- So are the nodes of all entries. -/
def Entries.Plain (es : Entries) : Prop := ∀ e ∈ es, e.2.Plain

/-- So is the node that a statement puts in. -/
def Statement.Plain : Statement → Prop
  | .pair _ _ node => node.Plain
  | .table _ _ | .element _ _ => True

/-- So are those of what is complete of a document and of the table at work. -/
structure Draft.Plain (d : Draft) : Prop where
  root : d.root.Plain
  current : d.current.Plain

-- ============================================================== values

theorem orderedItems_iff {items : List Toml} : OrderedItems items ↔ ∀ v ∈ items, v.Ordered := by
  induction items with
  | nil => simp [OrderedItems]
  | cons v rest ih => simp [OrderedItems, ih]

theorem orderedEntries_iff {entries : List (String × Toml)} :
    OrderedEntries entries ↔ ∀ e ∈ entries, e.2.Ordered := by
  induction entries with
  | nil => simp [OrderedEntries]
  | cons e rest ih => simp [OrderedEntries, ih]

/-- A table is put in order. -/
theorem ordered_ofList {entries : List (String × Toml)} (h : ∀ e ∈ entries, e.2.Ordered) :
    (table (Dict.ofList entries)).Ordered :=
  ⟨Dict.sorted_ofList entries, orderedEntries_iff.2 fun e he => h e (Dict.mem_of_mem_ofList he)⟩

theorem items?_eq (items : List Node) : Node.items? items = items.mapM Node.value? := by
  induction items with
  | nil => rfl
  | cons node rest ih =>
      rw [List.mapM_cons, ← ih]
      rfl

theorem pairs?_eq (es : Entries) :
    Node.pairs? es = es.mapM fun e => e.2.value?.map fun v => (e.1, v) := by
  induction es with
  | nil => rfl
  | cons e rest ih =>
      rw [List.mapM_cons, ← ih, Node.pairs?]
      cases e.2.value? <;> rfl

theorem elements?_eq (elements : List Entries) :
    Node.elements? elements = elements.mapM Node.table? := by
  induction elements with
  | nil => rfl
  | cons es rest ih =>
      rw [List.mapM_cons, ← ih]
      rfl

/-- What holds of whatever is made of each of some things holds of all that is made of them. -/
theorem forall_of_mapM {α β : Type} {f : α → Option β} {P : β → Prop} {xs : List α} {ys : List β}
    (h : ∀ x ∈ xs, ∀ y, f x = some y → P y) (hys : xs.mapM f = some ys) : ∀ y ∈ ys, P y := by
  induction xs generalizing ys with
  | nil =>
      cases hys
      exact fun _ hmem => absurd hmem List.not_mem_nil
  | cons x rest ih =>
      rw [List.mapM_cons] at hys
      obtain ⟨y, hy, hys⟩ := Option.bind_eq_some_iff.1 hys
      obtain ⟨ys', hys', heq⟩ := Option.bind_eq_some_iff.1 hys
      cases heq
      refine List.forall_mem_cons.2 ⟨h x (List.mem_cons_self ..) y hy, ?_⟩
      exact ih (fun x hmem => h x (List.mem_cons_of_mem _ hmem)) hys'

theorem ordered_pairs? {es : Entries} {entries : List (String × Toml)}
    (h : ∀ e ∈ es, ∀ v, e.2.value? = some v → v.Ordered)
    (hentries : Node.pairs? es = some entries) : ∀ e ∈ entries, e.2.Ordered := by
  rw [pairs?_eq] at hentries
  refine forall_of_mapM (fun e he e' he' => ?_) hentries
  obtain ⟨v, hv, rfl⟩ := Option.map_eq_some_iff.1 he'
  exact h e he v hv

theorem ordered_table? {es : Entries} {t : Toml}
    (h : ∀ e ∈ es, ∀ v, e.2.value? = some v → v.Ordered)
    (ht : Node.table? es = some t) : t.Ordered := by
  cases es with
  | nil =>
      cases ht
      exact ⟨List.Pairwise.nil, trivial⟩
  | cons e rest =>
      obtain ⟨key, node⟩ := e
      rw [Node.table?.eq_def] at ht
      dsimp only at ht
      split at ht
      case isTrue =>
        -- a date-time
        split at ht
        · obtain ⟨d, -, rfl⟩ := Option.map_eq_some_iff.1 ht
          trivial
        · cases ht
      case isFalse =>
        obtain ⟨v, hv, ht⟩ := Option.bind_eq_some_iff.1 ht
        obtain ⟨vs, hvs, heq⟩ := Option.bind_eq_some_iff.1 ht
        cases heq
        have hfirst := h (key, node) (List.mem_cons_self ..) v hv
        refine ordered_ofList (List.forall_mem_cons.2 ⟨hfirst, ?_⟩)
        exact ordered_pairs? (fun e he => h e (List.mem_cons_of_mem _ he)) hvs

/-- The value of a plain node is ordered. -/
theorem Node.Plain.ordered {node : Node} (h : node.Plain) :
    ∀ v, node.value? = some v → v.Ordered := by
  induction h with
  | scalar h =>
      rintro v ⟨⟩
      exact h
  | array _ ih =>
      intro v hv
      rw [Node.value?] at hv
      obtain ⟨vs, hvs, rfl⟩ := Option.map_eq_some_iff.1 hv
      rw [items?_eq] at hvs
      exact orderedItems_iff.2 (forall_of_mapM ih hvs)
  | inline _ ih =>
      intro v hv
      rw [Node.value?] at hv
      exact ordered_table? ih hv
  | table _ ih =>
      intro v hv
      rw [Node.value?] at hv
      exact ordered_table? ih hv
  | tables _ ih =>
      intro v hv
      rw [Node.value?] at hv
      obtain ⟨vs, hvs, rfl⟩ := Option.map_eq_some_iff.1 hv
      rw [elements?_eq] at hvs
      exact orderedItems_iff.2 (forall_of_mapM (fun es hes _ => ordered_table? (ih es hes)) hvs)

-- ============================================================= entries

namespace Entries

variable {es es' : Entries} {key : String} {node : Node} {path : List String} {origin : Origin}

theorem plain_nil : Plain [] := fun _ hmem => absurd hmem List.not_mem_nil

theorem Plain.append (h : Plain es) (h' : Plain es') : Plain (es ++ es') :=
  fun e he => (List.mem_append.1 he).elim (h e) (h' e)

theorem plain_singleton (h : node.Plain) : Plain [(key, node)] := by
  intro e he
  rw [List.mem_singleton.1 he]
  exact h

theorem Plain.get? (h : Plain es) (hget : Dict.get? key es = some node) : node.Plain :=
  h _ (Dict.mem_of_get? hget)

theorem Plain.put (h : Plain es) (hnode : node.Plain) : Plain (put key node es) := by
  induction es with
  | nil => exact plain_singleton hnode
  | cons e rest ih =>
      obtain ⟨k, n⟩ := e
      obtain ⟨hfirst, hrest⟩ := List.forall_mem_cons.1 h
      rw [Entries.put]
      split
      · exact List.forall_mem_cons.2 ⟨hnode, hrest⟩
      · exact List.forall_mem_cons.2 ⟨hfirst, ih hrest⟩

/-- Entries stay plain if what is done at the end of the path leaves them so. -/
theorem plain_alter {dotted : Bool} {change : Origin → Entries → Option Entries}
    (hchange : ∀ {origin es es'}, Plain es → change origin es = some es' → Plain es')
    (h : Plain es) (halter : alter dotted change path origin es = some es') : Plain es' := by
  induction path generalizing origin es es' with
  | nil => exact hchange h halter
  | cons key path ih =>
      rw [alter] at halter
      split at halter
      case h_1 =>
        -- nothing is there yet
        obtain ⟨inner, hinner, heq⟩ := Option.bind_eq_some_iff.1 halter
        cases heq
        exact h.put (.table (ih plain_nil hinner))
      case h_2 | h_3 | h_4 => cases halter
      case h_5 elements hget =>
        cases h.get? hget with
        | tables helements =>
          split at halter
          · cases halter
          · rename_i last hlast
            obtain ⟨inner, hinner, heq⟩ := Option.bind_eq_some_iff.1 halter
            cases heq
            refine h.put (.tables fun es hes => ?_)
            rcases List.mem_append.1 hes with hmem | hmem
            · exact helements es (List.mem_of_mem_dropLast hmem)
            · rw [List.mem_singleton.1 hmem]
              exact ih (helements last (List.mem_of_getLast? hlast)) hinner
      case h_6 inner hget =>
        cases h.get? hget with
        | table hentries =>
          split at halter
          · cases halter
          · obtain ⟨inner', hinner, heq⟩ := Option.bind_eq_some_iff.1 halter
            cases heq
            exact h.put (.table (ih hentries hinner))

theorem plain_insert (h : Plain es) (hnode : node.Plain)
    (hinsert : insert path key node es = some es') : Plain es' := by
  refine plain_alter (fun hes hchange => ?_) h hinsert
  split at hchange
  · cases hchange
  · cases hchange
    exact hes.append (plain_singleton hnode)

theorem plain_descend (h : Plain es) (hdescend : descend path es = some es') : Plain es' := by
  induction path generalizing es with
  | nil =>
      cases hdescend
      exact h
  | cons key path ih =>
      rw [descend] at hdescend
      split at hdescend
      case h_1 =>
        cases hdescend
        exact plain_nil
      case h_2 hget =>
        cases h.get? hget with
        | table hentries => exact ih hentries hdescend
      case h_3 hget =>
        cases h.get? hget with
        | tables helements =>
          obtain ⟨last, hlast, hrest⟩ := Option.bind_eq_some_iff.1 hdescend
          exact ih (helements last (List.mem_of_getLast? hlast)) hrest
      all_goals cases hdescend

end Entries

-- ============================================================ document

namespace Draft

open Entries

variable {d d' : Draft} {path : List String} {key : String} {root es : Entries}

theorem Plain.complete (h : d.Plain) (hcomplete : d.complete = some es) : es.Plain := by
  obtain ⟨hroot, hcurrent⟩ := h
  rw [Draft.complete] at hcomplete
  split at hcomplete
  case h_1 =>
    cases hcomplete
    exact hcurrent
  case h_2 =>
    refine plain_alter (fun hes hchange => ?_) hroot hcomplete
    cases hchange
    exact hes.append (plain_singleton (.table hcurrent))
  case h_3 =>
    refine plain_alter (fun hes hchange => ?_) hroot hcomplete
    split at hchange
    · cases hchange
      exact hes.put (.tables (List.forall_mem_singleton.2 hcurrent))
    · rename_i hget
      cases hchange
      cases hes.get? hget with
      | tables helements =>
        refine hes.put (.tables fun es hmem => ?_)
        rcases List.mem_append.1 hmem with hmem | hmem
        · exact helements es hmem
        · rw [List.mem_singleton.1 hmem]
          exact hcurrent
    · cases hchange

theorem plain_openTable (h : root.Plain) (hopen : openTable path key root = some d) : d.Plain := by
  rw [openTable] at hopen
  obtain ⟨inner, hinner, hopen⟩ := Option.bind_eq_some_iff.1 hopen
  have hplain := plain_descend h hinner
  split at hopen
  · cases hopen
    exact ⟨h, plain_nil⟩
  · rename_i hget
    obtain ⟨root', hroot', heq⟩ := Option.bind_eq_some_iff.1 hopen
    cases heq
    refine ⟨plain_alter (fun hes hchange => ?_) h hroot', ?_⟩
    · cases hchange
      exact fun e he => hes e ((Dict.erase_sublist ..).mem he)
    · cases hplain.get? hget with
      | table hentries => exact hentries
  · cases hopen

theorem plain_openElement (h : root.Plain) (hopen : openElement path key root = some d) :
    d.Plain := by
  rw [openElement] at hopen
  obtain ⟨es, -, heq⟩ := Option.bind_eq_some_iff.1 hopen
  cases heq
  exact ⟨h, plain_nil⟩

/-- A statement leaves a document plain. -/
theorem plain_take {s : Statement} (h : d.Plain) (hs : s.Plain) (htake : d.take s = some d') :
    d'.Plain := by
  cases s with
  | pair path key node =>
      obtain ⟨current, hcurrent, heq⟩ := Option.bind_eq_some_iff.1 htake
      cases heq
      exact ⟨h.root, plain_insert h.current hs hcurrent⟩
  | table path key =>
      obtain ⟨root, hroot, hopen⟩ := Option.bind_eq_some_iff.1 htake
      exact plain_openTable (h.complete hroot) hopen
  | element path key =>
      obtain ⟨root, hroot, hopen⟩ := Option.bind_eq_some_iff.1 htake
      exact plain_openElement (h.complete hroot) hopen

/-- So do any number of them. -/
theorem plain_foldlM {ss : List Statement} (h : d.Plain) (hs : ∀ s ∈ ss, s.Plain)
    (hfold : ss.foldlM take d = some d') : d'.Plain := by
  induction ss generalizing d with
  | nil =>
      cases hfold
      exact h
  | cons s rest ih =>
      obtain ⟨hfirst, hrest⟩ := List.forall_mem_cons.1 hs
      rw [List.foldlM_cons] at hfold
      obtain ⟨next, hnext, hfold⟩ := Option.bind_eq_some_iff.1 hfold
      exact ih (plain_take h hfirst hnext) hrest hfold

end Draft

theorem Entries.plain_ofStatements? {ss : List Statement} {es : Entries}
    (h : ∀ s ∈ ss, s.Plain) (hes : ofStatements? ss = some es) : es.Plain := by
  obtain ⟨d, hd, hcomplete⟩ := Option.bind_eq_some_iff.1 hes
  exact (Draft.plain_foldlM ⟨plain_nil, plain_nil⟩ h hd).complete hcomplete

-- ============================================================= reading

/-- A number is no table. -/
theorem ordered_integerOf? {i : Int} {v : Toml} (h : integerOf? i = some v) : v.Ordered := by
  rw [integerOf?] at h
  split at h
  · cases h
    trivial
  · cases h

theorem ordered_floatOf? {negative : Bool} {digits : List Char} {exponent : Int} {v : Toml}
    (h : floatOf? negative digits exponent = some v) : v.Ordered := by
  rw [floatOf?] at h
  split at h
  · cases h
    trivial
  · split at h
    · cases h
      trivial
    · cases h

section Reading

variable {cs rest : List Char} {v : Toml}

theorem ordered_based? {base : Nat} (h : based? base cs = some (v, rest)) : v.Ordered := by
  obtain ⟨_, -, h⟩ := Option.bind_eq_some_iff.1 h
  obtain ⟨v', hv, heq⟩ := Option.bind_eq_some_iff.1 h
  cases heq
  exact ordered_integerOf? hv

theorem ordered_decimal? (h : decimal? cs = some (v, rest)) : v.Ordered := by
  unfold decimal? at h
  obtain ⟨_, -, h⟩ := Option.bind_eq_some_iff.1 h
  obtain ⟨_, -, h⟩ := Option.bind_eq_some_iff.1 h
  obtain ⟨_, -, h⟩ := Option.bind_eq_some_iff.1 h
  dsimp only at h
  split at h
  · obtain ⟨v', hv, heq⟩ := Option.bind_eq_some_iff.1 h
    cases heq
    exact ordered_integerOf? hv
  · obtain ⟨v', hv, heq⟩ := Option.bind_eq_some_iff.1 h
    cases heq
    exact ordered_floatOf? hv

theorem ordered_number? (h : number? cs = some (v, rest)) : v.Ordered := by
  rw [number?.eq_def] at h
  split at h
  · exact ordered_based? h
  · exact ordered_based? h
  · exact ordered_based? h
  · rcases Option.or_eq_some_iff.1 h with h | ⟨-, h⟩
    · exact ordered_decimal? h
    · rw [special?.eq_def] at h
      split at h
      · cases h
        trivial
      · cases h
        trivial
      · cases h

theorem ordered_scalar? (h : scalar? cs = some (v, rest)) : v.Ordered := by
  rw [scalar?.eq_def] at h
  split at h
  case h_5 =>
    rcases Option.or_eq_some_iff.1 h with h | ⟨-, h⟩
    · obtain ⟨_, -, heq⟩ := Option.map_eq_some_iff.1 h
      cases heq
      trivial
    · exact ordered_number? h
  case h_1 | h_2 =>
    obtain ⟨_, -, heq⟩ := Option.map_eq_some_iff.1 h
    cases heq
    trivial
  case h_3 | h_4 =>
    cases h
    trivial

end Reading

mutual

/-- The values that are read are plain. -/
theorem plain_value? : (fuel : Nat) → {room : Nat} → {cs rest : List Char} → {node : Node} →
    value? fuel room cs = some (node, rest) → node.Plain
  | 0, _, _, _, _, h => nomatch h
  | fuel + 1, room, cs, rest, node, h => by
      rw [value?.eq_def] at h
      dsimp only at h
      split at h
      · cases h
      · cases h
      · obtain ⟨_, hread, heq⟩ := Option.map_eq_some_iff.1 h
        cases heq
        exact .array (plain_items? fuel hread)
      · split at h
        · cases h
          exact .inline Entries.plain_nil
        · obtain ⟨_, hread, heq⟩ := Option.map_eq_some_iff.1 h
          cases heq
          exact .inline (plain_pairs? fuel Entries.plain_nil hread)
      · obtain ⟨_, hread, heq⟩ := Option.map_eq_some_iff.1 h
        cases heq
        exact .scalar (ordered_scalar? hread)

theorem plain_items? : (fuel : Nat) → {room : Nat} → {cs rest : List Char} → {items : List Node} →
    items? fuel room cs = some (items, rest) → ∀ node ∈ items, node.Plain
  | 0, _, _, _, _, h => nomatch h
  | fuel + 1, room, cs, rest, items, h => by
      rw [items?.eq_def] at h
      dsimp only at h
      obtain ⟨_, -, h⟩ := Option.bind_eq_some_iff.1 h
      split at h
      · cases h
        exact fun _ hmem => absurd hmem List.not_mem_nil
      · obtain ⟨_, hfirst, h⟩ := Option.bind_eq_some_iff.1 h
        obtain ⟨_, -, h⟩ := Option.bind_eq_some_iff.1 h
        split at h
        · cases h
          exact List.forall_mem_singleton.2 (plain_value? fuel hfirst)
        · obtain ⟨_, hrest, heq⟩ := Option.bind_eq_some_iff.1 h
          cases heq
          exact List.forall_mem_cons.2 ⟨plain_value? fuel hfirst, plain_items? fuel hrest⟩
        · cases h

theorem plain_pairs? : (fuel : Nat) → {room : Nat} → {es es' : Entries} → {cs rest : List Char} →
    es.Plain → pairs? fuel room es cs = some (es', rest) → es'.Plain
  | 0, _, _, _, _, _, _, h => nomatch h
  | fuel + 1, room, es, es', cs, rest, hes, h => by
      rw [pairs?.eq_def] at h
      dsimp only at h
      obtain ⟨_, -, h⟩ := Option.bind_eq_some_iff.1 h
      obtain ⟨_, hnode, h⟩ := Option.bind_eq_some_iff.1 h
      obtain ⟨_, hinsert, h⟩ := Option.bind_eq_some_iff.1 h
      have hput := Entries.plain_insert hes (plain_value? fuel hnode) hinsert
      split at h
      · cases h
        exact hput
      · exact plain_pairs? fuel hput h
      · cases h

end

theorem plain_header? {cs rest : List Char} {s : Statement} (h : header? cs = some (s, rest)) :
    s.Plain := by
  rw [header?.eq_def] at h
  split at h
  · obtain ⟨_, -, h⟩ := Option.bind_eq_some_iff.1 h
    obtain ⟨_, -, h⟩ := Option.bind_eq_some_iff.1 h
    obtain ⟨_, -, h⟩ := Option.bind_eq_some_iff.1 h
    obtain ⟨_, -, heq⟩ := Option.bind_eq_some_iff.1 h
    cases heq
    trivial
  · obtain ⟨_, -, h⟩ := Option.bind_eq_some_iff.1 h
    obtain ⟨_, -, h⟩ := Option.bind_eq_some_iff.1 h
    obtain ⟨_, -, heq⟩ := Option.bind_eq_some_iff.1 h
    cases heq
    trivial

theorem plain_pair? {cs rest : List Char} {s : Statement} (h : pair? cs = some (s, rest)) :
    s.Plain := by
  obtain ⟨_, -, h⟩ := Option.bind_eq_some_iff.1 h
  obtain ⟨_, hnode, h⟩ := Option.bind_eq_some_iff.1 h
  obtain ⟨_, -, heq⟩ := Option.bind_eq_some_iff.1 h
  cases heq
  exact plain_value? _ hnode

/-- So are the statements of a text. -/
theorem plain_statements? {fuel : Nat} {cs : List Char} {ss : List Statement}
    (h : statements? fuel cs = some ss) : ∀ s ∈ ss, s.Plain := by
  induction fuel generalizing cs ss with
  | zero => cases h
  | succ fuel ih =>
      rw [statements?.eq_def] at h
      dsimp only at h
      split at h
      · cases h
        exact fun _ hmem => absurd hmem List.not_mem_nil
      · exact ih h
      · obtain ⟨_, -, h⟩ := Option.bind_eq_some_iff.1 h
        exact ih h
      · obtain ⟨s, hs, h⟩ := Option.bind_eq_some_iff.1 h
        obtain ⟨_, hrest, heq⟩ := Option.bind_eq_some_iff.1 h
        cases heq
        exact List.forall_mem_cons.2 ⟨plain_header? hs, ih hrest⟩
      · obtain ⟨s, hs, h⟩ := Option.bind_eq_some_iff.1 h
        obtain ⟨_, hrest, heq⟩ := Option.bind_eq_some_iff.1 h
        cases heq
        exact List.forall_mem_cons.2 ⟨plain_pair? hs, ih hrest⟩

/-- And so are the entries of a document. -/
theorem Entries.plain_ofText? {s : String} {es : Entries} (h : ofText? s = some es) :
    es.Plain := by
  obtain ⟨ss, hss, hes⟩ := Option.bind_eq_some_iff.1 h
  exact plain_ofStatements? (plain_statements? hss) hes

end ProviderLink.Toml
