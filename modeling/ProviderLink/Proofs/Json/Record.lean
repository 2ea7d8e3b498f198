/-
Records in either form. A record is read from an object, which names its
fields, or from an array, which lists them; the reader goes through both
item by item, and of what it reads the same can be said for both: the
fields before the last one are read as if that were not there, and the
last one from what the value gives it (`make?_andField`). What it is given
is all that depends on the form (`Json.field?`).

An array must not list more than there are fields, and that is asked at
the end, of the whole record alone (`read_eq_ok`); so the fields are taken
off first and the length is looked at once.
-/
import ProviderLink.Proofs.Json.Reading
import ProviderLink.Proofs.Outcome

namespace ProviderLink.Json

-- ================================================================ forms

/-- What a record gives a field: an object by the name of the field, an array by its place. -/
def field? (place : Nat) (name : String) : Json → Option Json
  | object members => Dict.get? name members
  | array items => items[place]?
  | _ => none

/-- The value has one of the forms of a record of so many fields. -/
def IsRecord (count : Nat) : Json → Prop
  | object _ => True
  | array items => items.length ≤ count
  | _ => False

theorem depth_lt_of_field? {v w : Json} {place : Nat} {name : String}
    (h : v.field? place name = some w) : w.depth < v.depth := by
  cases v with
  | object members => exact depth_lt_of_mem (Dict.mem_of_get? h)
  | array items =>
      have hitems := depthItems_le.1 (Nat.le_refl (depthItems items))
      exact Nat.lt_succ_of_le (hitems w (List.mem_of_getElem? h))
  | _ => cases h

theorem Ordered.field? {v w : Json} (hv : v.Ordered) {place : Nat} {name : String}
    (h : v.field? place name = some w) : w.Ordered := by
  cases v with
  | object members => exact orderedMembers_iff.1 hv.2 _ (Dict.mem_of_get? h)
  | array items => exact orderedItems_iff.1 hv w (List.mem_of_getElem? h)
  | _ => cases h

/-- What a field holds that is not `null` is given by the record, and stands inside it. -/
theorem inside_of_field? {v w : Json} (hv : v.Ordered) {place : Nat} {name : String}
    (h : orNull (v.field? place name) = w) (hw : w ≠ null) : w.Ordered ∧ w.depth < v.depth := by
  cases hfield : v.field? place name with
  | none => exact absurd (by rw [← h, hfield]; rfl) hw
  | some u =>
      rw [hfield] at h
      cases h
      exact ⟨hv.field? hfield, depth_lt_of_field? hfield⟩

namespace Fields

variable {α β : Type}

-- =============================================================== arrays

/-- The record that a list of items makes, whatever stands behind the last field. -/
def ofListed (fields : Fields α) (absent : Nat → String → Fault) (items : List Json) :
    Except Fault α :=
  (fields.putItems fields.names items fields.start).bind fun state => fields.finish state absent

/-- An array makes a record if its items do and none is left over. -/
theorem ofItems_eq_ok {fields : Fields α} {type : String} {items : List Json} {a : α} :
    fields.ofItems type items = .ok a ↔ items.length ≤ fields.names.length ∧
      fields.ofListed (fun place _ => .wrongLength place (fields.countText type)) items
        = .ok a := by
  have hofItems : fields.ofItems type items
      = (fields.ofListed (fun place _ => .wrongLength place (fields.countText type)) items).bind
          fun record =>
            if fields.names.length < items.length then
              .error (.wrongLength items.length "fewer elements in array")
            else .ok record := by
    unfold ofItems ofListed
    cases fields.putItems fields.names items fields.start with
    | error fault => rfl
    | ok state =>
        cases hfinish : fields.finish state
            fun place _ => .wrongLength place (fields.countText type) with
        | error fault => simp [hfinish, bind, Except.bind]
        | ok record =>
            simp only [hfinish, bind, Except.bind]
            split <;> rfl
  rw [hofItems]
  refine bind_eq_ok.trans ?_
  by_cases hlength : fields.names.length < items.length
  · simp only [if_pos hlength]
    exact iff_of_false nofun fun h => Nat.not_le_of_lt hlength h.1
  · simp only [if_neg hlength, and_iff_right (Nat.le_of_not_lt hlength)]
    constructor
    · rintro ⟨record, hrecord, heq⟩
      cases heq
      exact hrecord
    · exact fun h => ⟨a, h, rfl⟩

section AndField

variable (fields : Fields (α → β)) (name : String) (read : Reader α) (whenAbsent : Option α)

/-- Items go to the fields before the last one, and the one at its place to that. -/
theorem toOption_putItems_andField {names : List String} (hname : name ∉ names) :
    ∀ (items : List Json) (state : fields.State) (o : Option α),
    ((fields.andField name read whenAbsent).putItems (names ++ [name]) items
        (slot fields name read whenAbsent state o)).toOption
      = (fields.putItems names items state).toOption.bind fun state =>
          (held read o items[names.length]?).map (slot fields name read whenAbsent state) := by
  induction names with
  | nil =>
      intro items state o
      cases items with
      | nil => rfl
      | cons v rest =>
          have hput : (fields.andField name read whenAbsent).putItems [name] (v :: rest)
              (slot fields name read whenAbsent state o)
              = ((fields.andField name read whenAbsent).put name v
                  (slot fields name read whenAbsent state o)).bind .ok := rfl
          have hkept : fields.putItems [] (v :: rest) state = .ok state := rfl
          rw [List.nil_append, hput, put_slot_self, hkept, toOption_bind, toOption_map]
          cases hread : (read v).toOption with
          | none => simp [held, hread]
          | some x => simp [held, hread]
  | cons first names ih =>
      obtain ⟨hfirst, hnames⟩ := not_or.1 (mt List.mem_cons.2 hname)
      intro items state o
      cases items with
      | nil => rfl
      | cons v rest =>
          have hput : (fields.andField name read whenAbsent).putItems
              (first :: (names ++ [name])) (v :: rest) (slot fields name read whenAbsent state o)
              = ((fields.andField name read whenAbsent).put first v
                  (slot fields name read whenAbsent state o)).bind fun s =>
                (fields.andField name read whenAbsent).putItems (names ++ [name]) rest s := rfl
          have hbefore : fields.putItems (first :: names) (v :: rest) state
              = (fields.put first v state).bind fun s => fields.putItems names rest s := rfl
          rw [List.cons_append, hput, put_slot_of_ne _ _ _ _ (Ne.symm hfirst), hbefore,
            toOption_bind, toOption_bind, toOption_map]
          cases (fields.put first v state).toOption with
          | none => rfl
          | some s => exact ih hnames rest s o

/-- A record of items is that of the fields before and one more. -/
theorem toOption_ofListed_andField (hname : name ∉ fields.names)
    (absent : Nat → String → Fault) (items : List Json) :
    ((fields.andField name read whenAbsent).ofListed absent items).toOption
      = (fields.ofListed absent items).toOption.bind fun f =>
          (given read whenAbsent items[fields.names.length]?).map f := by
  have hlisted : (fields.andField name read whenAbsent).ofListed absent items
      = ((fields.andField name read whenAbsent).putItems (fields.names ++ [name]) items
          (slot fields name read whenAbsent fields.start whenAbsent)).bind fun state =>
            (fields.andField name read whenAbsent).finish state absent := rfl
  rw [hlisted, ofListed, toOption_bind, toOption_bind,
    toOption_putItems_andField fields name read whenAbsent hname]
  cases (fields.putItems fields.names items fields.start).toOption with
  | none => rfl
  | some state =>
      rw [Option.bind_some, Option.bind_some]
      cases items[fields.names.length]? with
      | none => exact finish_slot ..
      | some v =>
          rw [held, given]
          cases (read v).toOption with
          | some x => exact finish_slot ..
          | none => simp only [Option.map_none, Option.bind_none, Option.bind_fun_none]

end AndField

-- ========================================================== either form

/-- The record that a value makes in either form, whatever an array lists behind it. -/
def make? (fields : Fields α) (absent : Nat → String → Fault) : Json → Option α
  | .object members => (fields.ofMembers false members).toOption
  | .array items => (fields.ofListed absent items).toOption
  | _ => none

theorem eq_ok_iff_toOption {x : Except Fault α} {a : α} : x = .ok a ↔ x.toOption = some a :=
  ⟨fun h => h ▸ rfl, eq_ok_of_toOption⟩

/-- A record is read from what has a form of it and makes it. -/
theorem read_eq_ok {fields : Fields α} {type : String} {v : Json} {a : α} :
    fields.read type false v = .ok a ↔ v.IsRecord fields.names.length ∧
      fields.make? (fun place _ => .wrongLength place (fields.countText type)) v = some a := by
  cases v with
  | object members => exact eq_ok_iff_toOption.trans (and_iff_right trivial).symm
  | array items => exact ofItems_eq_ok.trans (and_congr_right fun _ => eq_ok_iff_toOption)
  | _ => exact iff_of_false nofun fun h => h.1

/-- A record of the fields before and one more, in either form. -/
theorem make?_andField {fields : Fields (α → β)} [fields.Lawful] {name : String}
    (hname : name ∉ fields.names) (read : Reader α) (whenAbsent : Option α)
    (absent : Nat → String → Fault) {v : Json} (hv : v.Ordered) :
    (fields.andField name read whenAbsent).make? absent v
      = (fields.make? absent v).bind fun f =>
          (given read whenAbsent (v.field? fields.names.length name)).map f := by
  cases v with
  | object members =>
      rw [Json.Ordered] at hv
      exact toOption_ofMembers_andField hname read whenAbsent (Dict.nodup_keys hv.1)
  | array items => exact toOption_ofListed_andField fields name read whenAbsent hname absent items
  | _ => rfl

/-- A record without fields is made of any value with a form of a record. -/
theorem make?_pure (x : α) (absent : Nat → String → Fault) {count : Nat} {v : Json}
    (h : v.IsRecord count) : (pure x).make? absent v = some x := by
  cases v with
  | object members => exact toOption_ofMembers_pure x members
  | array items => rfl
  | _ => exact h.elim

-- ============================================================== fields

/-- A field that must be given a text. -/
theorem given_readString {o : Option Json} {s : String} :
    given readString none o = some s ↔ o = some (.string s) := by
  cases o with
  | none => exact iff_of_false nofun nofun
  | some v => cases v <;> simp [given, readString, Except.toOption]

/-- A field that may be left out is read as `null` where it is. -/
theorem given_readOption (read : Reader α) (o : Option Json) :
    given (readOption read) (some none) o = (readOption read (orNull o)).toOption := by
  cases o <;> rfl

end Fields

variable {α : Type} {read : Reader α} {v : Json}

/-- Nothing is read from `null` alone. -/
theorem readOption_eq_none : readOption read v = .ok none ↔ v = null := by
  by_cases hnull : v = null
  · exact iff_of_true (hnull ▸ rfl) hnull
  · rw [readOption_of_ne_null hnull, map_eq_ok]
    exact iff_of_false nofun hnull

/-- What may be absent is read as what it is, where it is not `null`. -/
theorem readOption_eq_some {x : α} :
    readOption read v = .ok (some x) ↔ v ≠ null ∧ read v = .ok x := by
  by_cases hnull : v = null
  · subst hnull
    exact iff_of_false nofun fun h => h.1 rfl
  · rw [readOption_of_ne_null hnull, map_eq_ok, and_iff_right hnull]
    simp

/-- A table is read from the members of an object. -/
theorem readDict_eq_ok {entries : Dict String α} :
    readDict read v = .ok entries ↔
      ∃ members, v = object members ∧ readMembers read members = .ok entries := by
  cases v with
  | object members => exact ⟨fun h => ⟨members, rfl, h⟩, fun ⟨_, heq, h⟩ => object.inj heq ▸ h⟩
  | _ => exact iff_of_false nofun fun ⟨_, heq, _⟩ => nomatch heq

end ProviderLink.Json
