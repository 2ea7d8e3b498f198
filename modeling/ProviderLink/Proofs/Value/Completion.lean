/-
What conforming makes of a value, said without saying how. `Completes`
relates a value to its normal form, place by place: an object-typed place
has every name that the value or the type gives it, with the value's
member where there is one and `null` where there is none; a map keeps its
names, a list its length; and whatever is neither stays as it is. Members
are told apart by lookups and items by index, so nothing can be dropped,
changed or put elsewhere.

The relation is held to the filled form from both sides. That form
completes a value of the type (`completes_fill`), and whatever completes
it is that form (`Completes.eq_fill`): two sorted tables with the same
lookups are the same, and each rule decides every lookup. Both are by
induction on the type.
-/
import ProviderLink.Proofs.Ordered
import ProviderLink.Proofs.Value.Normal

namespace ProviderLink.ValueType

open Json

-- ============================================================ the rules

/-- The second value is the first with `null` for each member that an object-typed place lacks. -/
inductive Completes : ValueType → Json → Json → Prop
  | null (type : ValueType) : Completes type .null .null
  | nil (v : Json) : Completes .nil v v
  | string (s : String) : Completes .string (.string s) (.string s)
  | number (n : Number) : Completes .number (.number n) (.number n)
  | bool (b : Bool) : Completes .bool (.bool b) (.bool b)
  | object {fields : List (String × ValueType)} {members full : List (String × Json)}
      (sorted : Dict.Sorted full)
      (names : ∀ k, Dict.has k full ↔ Dict.has k members ∨ Dict.has k fields)
      (kept : ∀ k v n type, Dict.get? k members = some v → Dict.get? k fields = some type →
        Dict.get? k full = some n → Completes type v n)
      (added : ∀ k n, Dict.get? k members = none → Dict.get? k full = some n → n = .null) :
      Completes (.object fields) (.object members) (.object full)
  | map {element : ValueType} {members full : List (String × Json)}
      (names : Dict.keys full = Dict.keys members)
      (kept : ∀ k v n, Dict.get? k members = some v → Dict.get? k full = some n →
        Completes element v n) :
      Completes (.map element) (.object members) (.object full)
  | list {element : ValueType} {items full : List Json}
      (length : full.length = items.length)
      (kept : ∀ (i : Nat) v n, items[i]? = some v → full[i]? = some n → Completes element v n) :
      Completes (.list element) (.array items) (.array full)

-- ========================================================== filled form

/-- What a filled object has under a name is the member there, filled, or else a null. -/
theorem get?_fill_cases {fields : List (String × ValueType)} {members : List (String × Json)}
    {k : String} {n : Json}
    (h : Dict.get? k (withNulls (Dict.keys fields)
      (members.map fun e => (e.1, fillField fields e.1 e.2))) = some n) :
    (∃ v, Dict.get? k members = some v ∧ n = fillField fields k v)
      ∨ Dict.get? k members = none ∧ k ∈ Dict.keys fields ∧ n = .null := by
  rw [get?_fill] at h
  cases hv : Dict.get? k members with
  | some v =>
      rw [hv] at h
      cases h
      exact Or.inl ⟨v, rfl, rfl⟩
  | none =>
      rw [hv, Option.map_none, Option.none_or] at h
      split at h
      case isTrue hk =>
        cases h
        exact Or.inr ⟨rfl, hk, rfl⟩
      case isFalse => cases h

/-- A filled object has the names of its members and of the fields. -/
theorem has_fill {fields : List (String × ValueType)} {members : List (String × Json)}
    {k : String} :
    Dict.has k (withNulls (Dict.keys fields)
        (members.map fun e => (e.1, fillField fields e.1 e.2)))
      ↔ Dict.has k members ∨ Dict.has k fields := by
  rw [Dict.has, get?_fill, Dict.has_iff_mem_keys (d := fields), Dict.has]
  cases Dict.get? k members with
  | some v => simp
  | none =>
      rw [Option.map_none, Option.none_or]
      split
      case isTrue hk => simp [hk]
      case isFalse hk => simp [hk]

/-- The filled form of a value of the type completes it. -/
theorem completes_fill (type : ValueType) : ∀ {v : Json}, v.Ordered → type.Inhabits v →
    type.Completes v (type.fill v) := by
  induction type using fields_induction with
  | string | number | bool =>
      intro v _ h
      cases h <;> constructor
  | nil => exact fun _ _ => .nil _
  | object fields ih =>
      intro v hv h
      cases h with
      | null => exact .null _
      | @object _ members named fits =>
          have hfull := ordered_fill (.object fields) hv
          rw [fill, Json.Ordered] at hfull
          rw [Json.Ordered] at hv
          refine .object hfull.1 (fun k => has_fill) (fun k v n type hmember htype hn => ?_)
            fun k n hlacks hn => ?_
          · rcases get?_fill_cases hn with ⟨w, hw, rfl⟩ | ⟨hlacks, -⟩
            · rw [hmember] at hw
              cases hw
              rw [fillField_of_get? htype]
              exact ih _ (Dict.mem_of_get? htype)
                (orderedMembers_iff.1 hv.2 _ (Dict.mem_of_get? hmember))
                (fits k v type hmember htype)
            · rw [hmember] at hlacks
              cases hlacks
          · rcases get?_fill_cases hn with ⟨w, hw, -⟩ | ⟨-, -, hnull⟩
            · rw [hlacks] at hw
              cases hw
            · exact hnull
  | map element ih =>
      intro v hv h
      cases h with
      | null => exact .null _
      | map fits =>
          rw [Json.Ordered] at hv
          refine .map (Dict.keys_mapValues ..) fun k v n hmember hn => ?_
          rw [Dict.get?_mapValues, hmember] at hn
          cases hn
          exact ih (orderedMembers_iff.1 hv.2 _ (Dict.mem_of_get? hmember)) (fits k v hmember)
  | list element ih =>
      intro v hv h
      cases h with
      | null => exact .null _
      | list fits =>
          rw [Json.Ordered] at hv
          refine .list (List.length_map ..) fun i v n hitem hn => ?_
          rw [List.getElem?_map, hitem] at hn
          cases hn
          have hmem := List.mem_of_getElem? hitem
          exact ih (orderedItems_iff.1 hv v hmem) (fits v hmem)

/-- An object with the names of the members and of the fields, each member filled and null for
the others, is the filled one. -/
theorem eq_fill_object {fields : List (String × ValueType)} {members full : List (String × Json)}
    (hmembers : Dict.Sorted members) (hfull : Dict.Sorted full)
    (named : ∀ k v, Dict.get? k members = some v → Dict.has k fields)
    (names : ∀ k, Dict.has k full ↔ Dict.has k members ∨ Dict.has k fields)
    (kept : ∀ k v n type, Dict.get? k members = some v → Dict.get? k fields = some type →
      Dict.get? k full = some n → n = type.fill v)
    (added : ∀ k n, Dict.get? k members = none → Dict.get? k full = some n → n = .null) :
    Json.object full = (object fields).fill (.object members) := by
  have hfilled : Dict.Sorted (members.map fun e => (e.1, fillField fields e.1 e.2)) :=
    List.pairwise_map.2 hmembers
  rw [fill]
  refine congrArg Json.object (Dict.eq_of_get? hfull (sorted_withNulls _ hfilled) fun k => ?_)
  rw [get?_fill]
  cases hv : Dict.get? k members with
  | some v =>
      obtain ⟨type, htype⟩ := Dict.has_iff.1 (named k v hv)
      obtain ⟨n, hn⟩ := Dict.has_iff.1 ((names k).2 (.inr (named k v hv)))
      rw [hn, kept k v n type hv htype hn, Option.map_some, Option.some_or,
        fillField_of_get? htype]
  | none =>
      have hlacks : ¬Dict.has k members = true := by simp [Dict.has, hv]
      have hname : Dict.has k full ↔ k ∈ Dict.keys fields := by
        rw [names, or_iff_right hlacks, Dict.has_iff_mem_keys]
      rw [Option.map_none, Option.none_or]
      cases hn : Dict.get? k full with
      | some n => rw [if_pos (hname.1 (Dict.has_iff.2 ⟨n, hn⟩)), added k n hv hn]
      | none => rw [if_neg fun hk => by simpa [Dict.has, hn] using hname.2 hk]

/-- Nothing else completes it. -/
theorem Completes.eq_fill {type : ValueType} : ∀ {v n : Json}, v.Ordered → type.Inhabits v →
    type.Completes v n → n = type.fill v := by
  induction type using fields_induction with
  | string | number | bool | nil =>
      intro v n _ _ h
      cases h <;> rfl
  | object fields ih =>
      intro v n hv hfits h
      cases h with
      | null => rfl
      | object sorted names kept added =>
          cases hfits with
          | object named fits =>
              rw [Json.Ordered] at hv
              have hmembers := orderedMembers_iff.1 hv.2
              refine eq_fill_object hv.1 sorted named names (fun k v n type hmember htype hn => ?_)
                added
              exact ih _ (Dict.mem_of_get? htype) (hmembers _ (Dict.mem_of_get? hmember))
                (fits k v type hmember htype) (kept k v n type hmember htype hn)
  | map element ih =>
      intro v n hv hfits h
      cases h with
      | null => rfl
      | map names kept =>
          cases hfits with
          | map fits =>
              rw [Json.Ordered] at hv
              have hmembers := orderedMembers_iff.1 hv.2
              refine congrArg Json.object
                (Dict.eq_mapValues hv.1 names fun k v n hmember hn => ?_)
              exact ih (hmembers _ (Dict.mem_of_get? hmember)) (fits k v hmember)
                (kept k v n hmember hn)
  | list element ih =>
      intro v n hv hfits h
      cases h with
      | null => rfl
      | @list _ items full length kept =>
          cases hfits with
          | list fits =>
              rw [Json.Ordered] at hv
              refine congrArg Json.array (List.ext_getElem (by rw [length, List.length_map])
                fun i hfull hi => ?_)
              rw [List.length_map] at hi
              have hitem : items[i] ∈ items := List.getElem_mem hi
              rw [List.getElem_map]
              exact ih (orderedItems_iff.1 hv _ hitem) (fits _ hitem)
                (kept i _ _ (List.getElem?_eq_getElem hi) (List.getElem?_eq_getElem hfull))

-- ============================================================ conforming

/-- A value conforms to a type exactly if it is of that type. What it conforms to is the value
with `null` for what its object-typed places lack and nothing else added, dropped, moved or
changed, and that conforms to itself. -/
theorem conform_completes {type : ValueType} {v : Json} (htype : type.Ordered)
    (hv : v.Ordered) :
    ((∃ n, type.conform v = .ok n) ↔ type.Inhabits v)
      ∧ ∀ n, type.conform v = .ok n →
        type.Completes v n ∧ (∀ m, type.Completes v m → m = n) ∧ type.conform n = .ok n := by
  have hconform : ∀ {w n : Json}, w.Ordered →
      (type.conform w = .ok n ↔ type.Inhabits w ∧ n = type.fill w) :=
    fun hw => conformAt_eq_ok type htype hw
  refine ⟨⟨?_, fun hfits => ⟨_, (hconform hv).2 ⟨hfits, rfl⟩⟩⟩, fun n hn => ?_⟩
  · rintro ⟨n, hn⟩
    exact ((hconform hv).1 hn).1
  · obtain ⟨hfits, rfl⟩ := (hconform hv).1 hn
    refine ⟨completes_fill type hv hfits, fun m hm => hm.eq_fill hv hfits, ?_⟩
    refine (hconform (ordered_fill type hv)).2 ⟨inhabits_fill type hfits, ?_⟩
    exact (fill_fill type hv).symm

/-- Routes by name, each a list of stops, and a note. -/
def demoRoutes : ValueType :=
  .object [("note", .string), ("routes", .map (.list (.object [("at", .number), ("stay", .bool)])))]

/-- One route, one stop of which says nothing of how long it is. -/
def demoJourney : Json :=
  .object [("routes", .object [("north", .array [.object [("at", .number (.ofInt64 7))],
    .null])])]

/-- The same with all that is named. -/
def demoJourneyInFull : Json :=
  .object [("note", .null), ("routes", .object [("north",
    .array [.object [("at", .number (.ofInt64 7)), ("stay", .null)], .null])])]

theorem conform_completes_routes :
    demoRoutes.Ordered ∧ demoJourney.Ordered
      ∧ demoRoutes.conform demoJourney = .ok demoJourneyInFull
      ∧ demoRoutes.Inhabits demoJourney
      ∧ demoRoutes.Completes demoJourney demoJourneyInFull
      ∧ demoRoutes.conform demoJourneyInFull = .ok demoJourneyInFull := by
  have htype : demoRoutes.Ordered := ⟨by decide, trivial, ⟨by decide, trivial, trivial, trivial⟩,
    trivial⟩
  have hv : demoJourney.Ordered := by decide
  have hconform : demoRoutes.conform demoJourney = .ok demoJourneyInFull := rfl
  obtain ⟨hinhabits, hcompletes⟩ := conform_completes htype hv
  obtain ⟨hfull, -, hagain⟩ := hcompletes _ hconform
  exact ⟨htype, hv, hconform, hinhabits.1 ⟨_, hconform⟩, hfull, hagain⟩

end ProviderLink.ValueType
