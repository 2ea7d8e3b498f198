/-
What reading a record gives, field by field. The reader of a record goes
through the members of an object in the object's order and fills a state
that is private to it; which fault it reports first depends on that
order, but what it reads does not. So the law forgets the fault: where no
name is repeated, a record reads as the fields before the last one do,
and the last one as the value of its name does, or as its default where
that is absent (`toOption_ofMembers_andField`). Read from the last field
to the first, the law takes any record apart.

It needs that the fields before pass over the name of the last one,
which all records made of `pure` and `andField` do (`Lawful`).
-/
import ProviderLink.Json.Reading
import ProviderLink.Proofs.Base64
import ProviderLink.Proofs.Json.Canonical

namespace ProviderLink.Json

-- ============================================================= scalars

@[simp] theorem readString_string (s : String) : readString (string s) = .ok s := rfl

@[simp] theorem readBool_bool (b : Bool) : readBool (bool b) = .ok b := rfl

/-- Bytes are read from their base64 text. -/
@[simp] theorem readBytes_encode (b : Bytes) :
    readBytes (string (Base64.encode b)) = .ok b := by
  have htext : (string (Base64.encode b)).readString = .ok (Base64.encode b) := rfl
  unfold readBytes
  rw [htext]
  simp only [bind, Except.bind, Base64.decode_encode]

/-- An integer is read where it is in range. -/
theorem readInt_int {low high i : Int} (range : String) (h : -0x8000000000000000 ≤ i ∧ i < 0x10000000000000000)
    (hrange : low ≤ i ∧ i ≤ high) :
    readInt low high range (number (.int i h)) = .ok i := by
  rw [readInt, if_pos hrange]

/-- A number of 32 bits is read as it was. -/
@[simp] theorem readUInt32_ofUInt32 (n : UInt32) :
    readUInt32 (number (.ofUInt32 n)) = .ok n := by
  have hn := n.toNat_lt
  have hrange : (0 : Int) ≤ n.toNat ∧ (n.toNat : Int) ≤ 4294967295 := by omega
  have hback : (n.toNat : Int).toNat.toUInt32 = n := by
    rw [Int.toNat_natCast]
    exact UInt32.ofNat_toNat
  rw [readUInt32, Number.ofUInt32, readInt_int "u32" _ hrange]
  exact congrArg Except.ok hback

/-- A signed number of 32 bits is read as it was. -/
@[simp] theorem readInt32_ofInt32 (n : Int32) :
    readInt32 (number (.ofInt32 n)) = .ok n := by
  have hrange : -2147483648 ≤ n.toInt ∧ n.toInt ≤ 2147483647 := by
    have hlow := n.le_toInt
    have hhigh := n.toInt_lt
    omega
  rw [readInt32, Number.ofInt32, readInt_int "i32" _ hrange]
  exact congrArg Except.ok (Int32.ofInt_toInt n)

/-- What may be absent is read as what it is, where it is there. -/
theorem readOption_of_ne_null {α : Type} {v : Json} (h : v ≠ null) (read : Reader α) :
    readOption read v = (read v).map some := by
  rw [readOption]
  exact h

-- =============================================================== lists

section Lists

variable {α β : Type} {read : Reader α}

/-- Items that read as what they are made of. -/
theorem readItems_map {f : β → Json} {g : β → α} {xs : List β}
    (h : ∀ x ∈ xs, read (f x) = .ok (g x)) : readItems read (xs.map f) = .ok (xs.map g) := by
  induction xs with
  | nil => rfl
  | cons x xs ih =>
      have hrest := ih fun y hy => h y (List.mem_cons_of_mem _ hy)
      rw [List.map_cons, readItems, h x (List.mem_cons_self ..), hrest]
      rfl

/-- Members that read as what they are made of. -/
theorem readMembers_map {f : β → Json} {g : β → α} {entries : List (String × β)}
    (h : ∀ e ∈ entries, read (f e.2) = .ok (g e.2)) :
    readMembers read (Dict.mapValues f entries) = .ok (Dict.mapValues g entries) := by
  induction entries with
  | nil => rfl
  | cons e entries ih =>
      have hcons : Dict.mapValues f (e :: entries)
          = (e.1, f e.2) :: Dict.mapValues f entries := rfl
      have hrest := ih fun e' he' => h e' (List.mem_cons_of_mem _ he')
      rw [hcons, readMembers, h e (List.mem_cons_self ..), hrest]
      rfl

/-- A table whose values read as what they are made of, in canonical form. -/
theorem readDict_canonical {f : α → Json} {entries : Dict String α}
    (hs : Dict.Sorted entries)
    (h : ∀ e ∈ entries, read (f e.2).canonical = .ok e.2) :
    readDict read (object (Dict.mapValues f entries)).canonical = .ok entries := by
  have hread := readMembers_map (f := fun x => (f x).canonical) (g := id) h
  rw [canonical_mapValues f hs, readDict, hread, Dict.mapValues]
  exact congrArg Except.ok (List.map_id _)

theorem readList_strings (ss : List String) :
    readList readString (strings ss) = .ok ss := by
  have hitems : readItems readString (ss.map string) = .ok (ss.map id) :=
    readItems_map fun _ _ => rfl
  rw [strings, readList, hitems, List.map_id]

end Lists

-- ============================================================ outcomes

@[simp] theorem toOption_ok {α : Type} (a : α) :
    (Except.ok a : Except Fault α).toOption = some a := rfl

theorem toOption_bind {α β : Type} (x : Except Fault α) (f : α → Except Fault β) :
    (x.bind f).toOption = x.toOption.bind fun a => (f a).toOption := by
  cases x <;> rfl

theorem toOption_map {α β : Type} (x : Except Fault α) (f : α → β) :
    (x.map f).toOption = x.toOption.map f := by
  cases x <;> rfl

/-- What was read, where no fault is left. -/
theorem eq_ok_of_toOption {α : Type} {x : Except Fault α} {a : α}
    (h : x.toOption = some a) : x = .ok a := by
  cases x with
  | error => cases h
  | ok b => rw [Option.some.inj h]

-- ============================================================= records

namespace Fields

variable {α β : Type}

/-- A name of no field is passed over. -/
class Lawful (fields : Fields α) : Prop where
  put_of_not_mem : ∀ name, name ∉ fields.names → ∀ v state,
    fields.put name v state = .ok state

/-- A record without fields passes over every name. -/
instance (x : α) : (pure x).Lawful := ⟨fun _ _ _ _ => rfl⟩

/-- One more field passes over what is neither its own name nor one before. -/
instance (fields : Fields (α → β)) [fields.Lawful] (name : String) (read : Reader α)
    (whenAbsent : Option α) : (fields.andField name read whenAbsent).Lawful := by
  refine ⟨fun key hkey v state => ?_⟩
  have hname : key ≠ name := fun heq =>
    hkey (List.mem_append_right _ (List.mem_singleton.2 heq))
  have hbefore : key ∉ fields.names := fun hmem => hkey (List.mem_append_left _ hmem)
  have hput : (fields.andField name read whenAbsent).put key v state
      = (fields.put key v state.1).map fun s => (s, state.2) := if_neg hname
  rw [hput, Lawful.put_of_not_mem key hbefore]
  rfl

/-- Where no name counts as unknown, members are put in one after the other. -/
theorem putMembers_cons (fields : Fields α) (name : String) (v : Json)
    (rest : List (String × Json)) (state : fields.State) :
    fields.putMembers false ((name, v) :: rest) state
      = (fields.put name v state).bind (fields.putMembers false rest) := rfl

/-- A record is what is made of its members once all are put in. -/
theorem ofMembers_eq (fields : Fields α) (members : List (String × Json)) :
    fields.ofMembers false members
      = (fields.putMembers false members fields.start).bind fun state =>
          fields.finish state fun _ name => .missingField name := rfl

-- ====================================================== one more field

section AndField

variable (fields : Fields (α → β)) (name : String) (read : Reader α)
  (whenAbsent : Option α)

/-- The state of the fields before and of the last one. -/
def slot (state : fields.State) (o : Option α) :
    (fields.andField name read whenAbsent).State := (state, o)

/-- What is put under the name of the last field is for that field. -/
theorem put_slot_self (v : Json) (state : fields.State) (o : Option α) :
    (fields.andField name read whenAbsent).put name v
        (slot fields name read whenAbsent state o)
      = (read v).map fun x => slot fields name read whenAbsent state (some x) :=
  if_pos rfl

/-- What is put under another name is for the fields before. -/
theorem put_slot_of_ne {key : String} (h : key ≠ name) (v : Json)
    (state : fields.State) (o : Option α) :
    (fields.andField name read whenAbsent).put key v
        (slot fields name read whenAbsent state o)
      = (fields.put key v state).map fun s => slot fields name read whenAbsent s o :=
  if_neg h

/-- The record needs the fields before and a value of the last one. -/
theorem finish_slot (state : fields.State) (o : Option α)
    (absent : Nat → String → Fault) :
    ((fields.andField name read whenAbsent).finish
        (slot fields name read whenAbsent state o) absent).toOption
      = (fields.finish state absent).toOption.bind fun f => o.map f := by
  cases o with
  | none =>
      have hdo : (fields.andField name read whenAbsent).finish
          (slot fields name read whenAbsent state none) absent
          = (fields.finish state absent).bind fun _ =>
              .error (absent fields.names.length name) := rfl
      rw [hdo, toOption_bind]
      rfl
  | some x =>
      have hdo : (fields.andField name read whenAbsent).finish
          (slot fields name read whenAbsent state (some x)) absent
          = (fields.finish state absent).bind fun f => .ok (f x) := rfl
      rw [hdo, toOption_bind]
      rfl

/-- What the last field holds once a value of its name, if there is one, is put in. -/
def held (o : Option α) : Option Json → Option (Option α)
  | some v => (read v).toOption.map some
  | none => some o

/-- Members go to the field of their name or to the fields before it. -/
theorem toOption_putMembers_andField [fields.Lawful] (hname : name ∉ fields.names)
    {members : List (String × Json)} (hkeys : (Dict.keys members).Nodup) :
    ∀ (state : fields.State) (o : Option α),
    ((fields.andField name read whenAbsent).putMembers false members
        (slot fields name read whenAbsent state o)).toOption
      = (fields.putMembers false members state).toOption.bind fun state =>
          (held read o (Dict.get? name members)).map
            (slot fields name read whenAbsent state) := by
  induction members with
  | nil => exact fun _ _ => rfl
  | cons e members ih =>
      obtain ⟨key, v⟩ := e
      obtain ⟨hfresh, hkeys⟩ := List.nodup_cons.1 hkeys
      intro state o
      rw [putMembers_cons, putMembers_cons, toOption_bind, toOption_bind, Dict.get?_cons]
      by_cases hkey : key = name
      · -- the value of the last field: nothing else stands under its name
        subst hkey
        rw [put_slot_self, Lawful.put_of_not_mem key hname, if_pos rfl, toOption_map, held]
        cases (read v).toOption with
        | none =>
            simp only [Except.toOption, Option.bind_some, Option.map_none,
              Option.bind_fun_none, Option.bind_none]
        | some x =>
            have hrest := ih hkeys state (some x)
            rw [Dict.get?_eq_none hfresh] at hrest
            exact hrest
      · rw [put_slot_of_ne _ _ _ _ hkey, if_neg fun heq => hkey heq.symm, toOption_map]
        cases (fields.put key v state).toOption with
        | none => rfl
        | some s => exact ih hkeys s o

end AndField

/-- What a field is given by the value of its name, if there is one. -/
def given (read : Reader α) (whenAbsent : Option α) : Option Json → Option α
  | some v => (read v).toOption
  | none => whenAbsent

/-- A record of the fields before and one more. -/
theorem toOption_ofMembers_andField {fields : Fields (α → β)} [fields.Lawful]
    {name : String} (hname : name ∉ fields.names) (read : Reader α)
    (whenAbsent : Option α) {members : List (String × Json)}
    (hkeys : (Dict.keys members).Nodup) :
    ((fields.andField name read whenAbsent).ofMembers false members).toOption
      = (fields.ofMembers false members).toOption.bind fun f =>
          (given read whenAbsent (Dict.get? name members)).map f := by
  have hstart : (fields.andField name read whenAbsent).start
      = slot fields name read whenAbsent fields.start whenAbsent := rfl
  rw [ofMembers_eq, ofMembers_eq, toOption_bind, toOption_bind, hstart,
    toOption_putMembers_andField fields name read whenAbsent hname hkeys]
  cases (fields.putMembers false members fields.start).toOption with
  | none => rfl
  | some state =>
      rw [Option.bind_some, Option.bind_some]
      cases Dict.get? name members with
      | none => exact finish_slot ..
      | some v =>
          rw [held, given]
          cases (read v).toOption with
          | some x => exact finish_slot ..
          | none =>
              simp only [Option.map_none, Option.bind_none, Option.bind_fun_none]

/-- A record without fields is made of any members. -/
theorem toOption_ofMembers_pure (x : α) (members : List (String × Json)) :
    ((pure x).ofMembers false members).toOption = some x := by
  have hput : ∀ state, (pure x).putMembers false members state = .ok state := by
    induction members with
    | nil => exact fun _ => rfl
    | cons e members ih =>
        intro state
        rw [putMembers_cons]
        exact ih state
  rw [ofMembers_eq, hput]
  rfl

-- =================================================== canonical objects

/-- The members of a canonical object are read like those that were written, each in canonical
form. -/
@[simp] theorem toOption_read_andField {fields : Fields (α → β)} [fields.Lawful]
    {name : String} (hname : name ∉ fields.names) (read : Reader α)
    (whenAbsent : Option α) {members : List (String × Json)}
    (hkeys : (Dict.keys members).Nodup) (type : String) :
    ((fields.andField name read whenAbsent).read type false
        (object members).canonical).toOption
      = (fields.read type false (object members).canonical).toOption.bind fun f =>
          (given read whenAbsent ((Dict.get? name members).map canonical)).map f := by
  have hkeys' : (Dict.keys (canonicalMembers members)).Nodup := by
    rw [keys_canonicalMembers]
    exact hkeys
  have hsorted := Dict.nodup_keys (Dict.sorted_ofList (canonicalMembers members))
  rw [canonical, Fields.read, Fields.read,
    toOption_ofMembers_andField hname read whenAbsent hsorted, Dict.get?_ofList hkeys',
    get?_canonicalMembers]

/-- A record without fields is read from any object. -/
@[simp] theorem toOption_read_pure (x : α) (type : String)
    (members : List (String × Json)) :
    ((pure x).read type false (object members).canonical).toOption = some x := by
  rw [canonical, Fields.read, toOption_ofMembers_pure]

@[simp] theorem names_pure (x : α) : (pure x).names = [] := rfl

@[simp] theorem names_andField (fields : Fields (α → β)) (name : String)
    (read : Reader α) (whenAbsent : Option α) :
    (fields.andField name read whenAbsent).names = fields.names ++ [name] := rfl

end Fields

end ProviderLink.Json
