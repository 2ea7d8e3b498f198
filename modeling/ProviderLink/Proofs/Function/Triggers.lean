/-
The configuration of subscriptions. A registry's schema for it has one
optional block per trigger, which holds that trigger's own schema. It is
always there and valid: registrations let a trigger in only under a name
that is not blank and with a schema that is valid (`Registered`), and a
schema is valid if the schemas in its blocks are, wherever they stand.

What such a schema takes is decided trigger by trigger
(`decodeParsed_subscriptionSchema`). It has no attributes and requires
nothing, so that a value satisfies it if each member does the schema of
its own trigger; and the filled value is that of each member, with `null`
under the keys of all other triggers. Both are said in lookups, the form in
which the result of a subscription is told (`Configures`).
-/
import ProviderLink.Proofs.Function.Evaluation
import ProviderLink.Proofs.Schema.Validity

namespace ProviderLink

open Json

variable {m : Type → Type}

/-- The schema that a function declares, if it declares one. -/
def Function.schema (f : Function) : ObjectSchema := f.configurationSchema.toOption.getD .empty

namespace Registry

-- ============================================================ registered

/-- What registrations leave of triggers: a table of triggers, each of which may be registered
under its key. -/
structure Registered (r : Registry m) : Prop where
  sorted : Dict.Sorted r.triggers
  accepted : ∀ e ∈ r.triggers, e.2.mayRegister .trigger e.1 false = .ok ()

theorem Registered.register {r : Registry m} (h : r.Registered)
    (registration : Registration m) : (r.register registration).Registered := by
  cases registration with
  | action name a =>
      rw [register_action]
      split
      · exact ⟨h.sorted, h.accepted⟩
      · exact h
  | trigger key t =>
      rw [Registry.register, registerTrigger]
      cases hmay : t.mayRegister .trigger key (Dict.has key r.triggers) with
      | error fault => exact h
      | ok =>
          obtain ⟨hblank, htrimmed, -, hvalid⟩ := Function.mayRegister_eq_ok.1 hmay
          refine ⟨Dict.sorted_insert key t h.sorted, fun e he => ?_⟩
          rcases Dict.mem_insert he with rfl | he
          · exact Function.mayRegister_eq_ok.2 ⟨hblank, htrimmed, rfl, hvalid⟩
          · exact h.accepted e he

/-- Whatever is registered, in whatever order, what is there was accepted. -/
theorem registered_build (registrations : List (Registration m)) :
    (build registrations).Registered := by
  have hrun : ∀ r : Registry m, r.Registered → (registrations.foldl register r).Registered := by
    induction registrations with
    | nil => exact fun _ h => h
    | cons registration rest ih => exact fun r h => ih _ (h.register registration)
  exact hrun .empty ⟨.nil, fun _ he => absurd he List.not_mem_nil⟩

/-- A registered trigger has a name and declares a valid schema. -/
theorem Registered.declares {r : Registry m} (h : r.Registered) {e : String × Function}
    (he : e ∈ r.triggers) :
    Text.allBlank e.1 = false ∧ e.2.configurationSchema = .ok e.2.schema ∧ e.2.schema.Valid := by
  obtain ⟨hblank, -, -, hvalidate⟩ := Function.mayRegister_eq_ok.1 (h.accepted e he)
  obtain ⟨⟨schema, hschema, hvalid⟩, -⟩ := Function.validate_eq_ok.1 hvalidate
  have hdeclared : e.2.schema = schema := by
    rw [Function.schema, hschema]
    rfl
  rw [hdeclared]
  exact ⟨hblank, hschema, ObjectSchema.validate_eq_ok.1 hvalid⟩

-- ===================================================== the whole schema

/-- One optional block per trigger, with its key and its schema. -/
def subscriptionSchema (r : Registry m) : ObjectSchema :=
  ⟨[], r.triggers.map fun e => (e.1, ⟨e.1, e.2.schema, false⟩)⟩

theorem triggerBlocks_eq {triggers : List (String × Function)}
    (h : ∀ e ∈ triggers, e.2.configurationSchema = .ok e.2.schema) :
    ∀ s : ObjectSchema, triggerBlocks s triggers = .ok ⟨s.attributes,
      Dict.insertAll s.blocks (triggers.map fun e => (e.1, ⟨e.1, e.2.schema, false⟩))⟩ := by
  induction triggers with
  | nil =>
      rintro ⟨attributes, blocks⟩
      rfl
  | cons e triggers ih =>
      intro s
      obtain ⟨hfirst, hrest⟩ := List.forall_mem_cons.1 h
      rw [triggerBlocks, hfirst]
      exact ih hrest _

theorem triggerConfigurationSchema_eq {r : Registry m} (h : r.Registered) :
    r.triggerConfigurationSchema = .ok r.subscriptionSchema := by
  have hblocks : Dict.Sorted r.subscriptionSchema.blocks := List.pairwise_map.2 h.sorted
  rw [triggerConfigurationSchema, triggerBlocks_eq fun e he => (h.declares he).2.1]
  exact congrArg (fun blocks => Except.ok (ObjectSchema.mk [] blocks))
    (Dict.ofList_of_sorted hblocks)

theorem valid_subscriptionSchema {r : Registry m} (h : r.Registered) :
    r.subscriptionSchema.Valid := by
  have hblock : ∀ e ∈ r.subscriptionSchema.blocks, ∃ t ∈ r.triggers,
      e = (t.1, ⟨t.1, t.2.schema, false⟩) := fun e he =>
    let ⟨t, ht, heq⟩ := List.mem_map.1 he
    ⟨t, ht, heq.symm⟩
  refine .entries nofun (fun e he => ?_) fun e he => ?_
  · obtain ⟨t, ht, rfl⟩ := hblock e he
    exact ⟨⟨(h.declares ht).1, rfl⟩, rfl⟩
  · obtain ⟨t, ht, rfl⟩ := hblock e he
    exact (h.declares ht).2.2

-- ============================================================= lookups

theorem trigger_eq_ok {r : Registry m} {key : String} {t : Function} :
    r.trigger key = .ok t ↔ Dict.get? key r.triggers = some t := by
  unfold Registry.trigger
  cases Dict.get? key r.triggers with
  | none => exact iff_of_false nofun nofun
  | some t' => simp

theorem get?_blocks (r : Registry m) (key : String) :
    Dict.get? key r.subscriptionSchema.blocks
      = (Dict.get? key r.triggers).map fun t => ⟨key, t.schema, false⟩ :=
  Dict.get?_map (fun key (t : Function) => (⟨key, t.schema, false⟩ : BlockSchema)) key r.triggers

theorem keys_blocks (r : Registry m) :
    Dict.keys r.subscriptionSchema.blocks = r.triggerKeyNames :=
  List.map_map ..

theorem mem_triggerKeyNames {r : Registry m} {key : String} :
    key ∈ r.triggerKeyNames ↔ ∃ t, Dict.get? key r.triggers = some t := Dict.mem_keys

theorem not_mem_triggerKeyNames {r : Registry m} {key : String}
    (h : Dict.get? key r.triggers = none) : key ∉ r.triggerKeyNames := fun hkey =>
  let ⟨_, hfound⟩ := mem_triggerKeyNames.1 hkey
  nomatch h.symm.trans hfound

/-- The schemas that triggers declare are ordered. -/
def TriggersOrdered (r : Registry m) : Prop :=
  ∀ key t schema, r.trigger key = .ok t → t.configurationSchema = .ok schema → schema.Ordered

theorem Registered.schema_of_get? {r : Registry m} (h : r.Registered) {key : String}
    {t : Function} (ht : Dict.get? key r.triggers = some t) :
    t.configurationSchema = .ok t.schema :=
  (h.declares (Dict.mem_of_get? ht)).2.1

theorem TriggersOrdered.of_get? {r : Registry m} (hr : r.TriggersOrdered) (h : r.Registered)
    {key : String} {t : Function} (ht : Dict.get? key r.triggers = some t) : t.schema.Ordered :=
  hr key t _ (trigger_eq_ok.2 ht) (h.schema_of_get? ht)

theorem ordered_subscriptionSchema {r : Registry m} (h : r.Registered)
    (hr : r.TriggersOrdered) : r.subscriptionSchema.Ordered := by
  refine ⟨⟨.nil, nofun⟩, List.pairwise_map.2 h.sorted, ObjectSchema.orderedBlocks_iff.2 ?_⟩
  intro e he
  obtain ⟨t, ht, rfl⟩ := List.mem_map.1 he
  exact hr.of_get? h (Dict.get?_of_sorted h.sorted ht)

/-- The schema is satisfied by objects that give triggers what satisfies theirs. -/
theorem satisfies_subscriptionSchema {r : Registry m} {members : List (String × Json)} :
    r.subscriptionSchema.Satisfies (.object members) ↔
      (∀ k v, Dict.get? k members = some v → k ∈ r.triggerKeyNames) ∧
      ∀ k v t, Dict.get? k members = some v → v ≠ .null → Dict.get? k r.triggers = some t →
        t.schema.Satisfies v := by
  have hkeys : ∀ k, Dict.has k r.subscriptionSchema.blocks ↔ k ∈ r.triggerKeyNames := fun k => by
    rw [Dict.has_iff_mem_keys, keys_blocks]
  constructor
  · intro hs
    cases hs with
    | object named blockFits _ _ _ =>
        refine ⟨fun k v hk => (hkeys k).1 ((named k v hk).resolve_left nofun),
          fun k v t hk hne ht => ?_⟩
        exact blockFits k v _ hk (by rw [get?_blocks, ht]; rfl) hne
  · rintro ⟨named, fits⟩
    refine .object (fun k v hk => .inr ((hkeys k).2 (named k v hk))) (fun k v b hk hb hne => ?_)
      nofun nofun fun k b hb hrequired => ?_
    · rw [get?_blocks] at hb
      obtain ⟨t, ht, rfl⟩ := Option.map_eq_some_iff.1 hb
      exact fits k v t hk hne ht
    · rw [get?_blocks] at hb
      obtain ⟨t, -, rfl⟩ := Option.map_eq_some_iff.1 hb
      cases hrequired

/-- What a configuration is filled to: for each trigger what it is given, filled by its schema. -/
def configured (r : Registry m) (members : List (String × Json)) : List (String × Json) :=
  r.triggers.map fun e => (e.1, e.2.schema.fill (orNull (Dict.get? e.1 members)))

theorem get?_configured (r : Registry m) (members : List (String × Json)) (key : String) :
    Dict.get? key (r.configured members) = (Dict.get? key r.triggers).map fun t =>
      t.schema.fill (orNull (Dict.get? key members)) :=
  Dict.get?_map (fun k (t : Function) => t.schema.fill (orNull (Dict.get? k members))) key
    r.triggers

theorem keys_configured (r : Registry m) (members : List (String × Json)) :
    Dict.keys (r.configured members) = r.triggerKeyNames :=
  List.map_map ..

theorem Registered.sorted_configured {r : Registry m} (h : r.Registered)
    (members : List (String × Json)) : Dict.Sorted (r.configured members) :=
  List.pairwise_map.2 h.sorted

theorem fill_subscriptionSchema {r : Registry m} (h : r.Registered)
    {members : List (String × Json)} (hmembers : Dict.Sorted members)
    (hnamed : ∀ k v, Dict.get? k members = some v → k ∈ r.triggerKeyNames) :
    r.subscriptionSchema.fill (.object members) = .object (r.configured members) := by
  rw [ObjectSchema.fill_object]
  refine congrArg _ (Dict.eq_of_get? (sorted_withNulls _ (List.pairwise_map.2 hmembers))
    (h.sorted_configured members) fun k => ?_)
  rw [get?_withNulls, Dict.get?_map (ObjectSchema.fillMember _ _), get?_configured, keys_blocks]
  cases hk : Dict.get? k members with
  | some v =>
      obtain ⟨t, ht⟩ := mem_triggerKeyNames.1 (hnamed k v hk)
      rw [Option.map_some, ObjectSchema.fillMember_eq, get?_blocks, ht]
      rfl
  | none =>
      cases ht : Dict.get? k r.triggers with
      | some t =>
          have hkey : k ∈ r.triggerKeyNames := mem_triggerKeyNames.2 ⟨t, ht⟩
          simp [orNull, hkey]
      | none =>
          simp [not_mem_triggerKeyNames ht, subscriptionSchema]

-- ======================================================== subscriptions

/-- What the configuration of a subscription comes to. What it gives a trigger is decoded by that
trigger's own schema; a trigger that it gives nothing, or `null`, has `null`. -/
structure Configures (r : Registry m) (members out : List (String × Json)) : Prop where
  named : ∀ e ∈ members, e.1 ∈ r.triggerKeyNames
  keys : Dict.keys out = r.triggerKeyNames
  given : ∀ key v t schema, Dict.get? key members = some v → v ≠ .null → r.trigger key = .ok t →
    t.configurationSchema = .ok schema →
    ∃ n, Codec.decodeParsed schema v = .ok n ∧ Dict.get? key out = some n
  spared : ∀ key ∈ r.triggerKeyNames, orNull (Dict.get? key members) = .null →
    Dict.get? key out = some .null

/-- A trigger's own schema takes what satisfies it, and fills that. -/
theorem Registered.decodeParsed_own {r : Registry m} (h : r.Registered) (hr : r.TriggersOrdered)
    {key : String} {t : Function} (ht : Dict.get? key r.triggers = some t) {v n : Json}
    (hv : v.Ordered) :
    Codec.decodeParsed t.schema v = .ok n ↔ t.schema.Satisfies v ∧ n = t.schema.fill v :=
  Codec.decodeParsed_eq_ok (hr.of_get? h ht) hv

/-- What satisfies the whole schema configures triggers with what it is filled to. -/
theorem configures_configured {r : Registry m} (h : r.Registered) (hr : r.TriggersOrdered)
    {members : List (String × Json)} (hordered : (Json.object members).Ordered)
    (hs : r.subscriptionSchema.Satisfies (.object members)) :
    r.Configures members (r.configured members) := by
  rw [Json.Ordered] at hordered
  obtain ⟨named, fits⟩ := satisfies_subscriptionSchema.1 hs
  constructor
  case named => exact fun e he => named _ _ (Dict.get?_of_sorted hordered.1 he)
  case keys => exact keys_configured r members
  case given =>
    intro key v t schema hk hne ht hschema
    rw [trigger_eq_ok] at ht
    cases hschema.symm.trans (h.schema_of_get? ht)
    have hv : v.Ordered := orderedMembers_iff.1 hordered.2 _ (Dict.mem_of_get? hk)
    refine ⟨_, (h.decodeParsed_own hr ht hv).2 ⟨fits key v t hk hne ht, rfl⟩, ?_⟩
    rw [get?_configured, ht, hk]
    rfl
  case spared =>
    intro key hkey hnull
    obtain ⟨t, ht⟩ := mem_triggerKeyNames.1 hkey
    rw [get?_configured, ht, hnull, Option.map_some, ObjectSchema.fill_null]

section Configures

variable {r : Registry m} {members out : List (String × Json)}

theorem Configures.named_of_get? (hc : r.Configures members out) (k : String) (v : Json)
    (hk : Dict.get? k members = some v) : k ∈ r.triggerKeyNames :=
  hc.named _ (Dict.mem_of_get? hk)

/-- What a trigger is given satisfies its schema, and what it comes to is that, filled. -/
theorem Configures.satisfies (hc : r.Configures members out) (h : r.Registered)
    (hr : r.TriggersOrdered) (hordered : OrderedMembers members) {key : String} {v : Json}
    {t : Function} (hk : Dict.get? key members = some v) (hne : v ≠ .null)
    (ht : Dict.get? key r.triggers = some t) :
    t.schema.Satisfies v ∧ Dict.get? key out = some (t.schema.fill v) := by
  have hv : v.Ordered := orderedMembers_iff.1 hordered _ (Dict.mem_of_get? hk)
  obtain ⟨n, hn, hfound⟩ := hc.given key v t _ hk hne (trigger_eq_ok.2 ht) (h.schema_of_get? ht)
  obtain ⟨hs, rfl⟩ := (h.decodeParsed_own hr ht hv).1 hn
  exact ⟨hs, hfound⟩

/-- What triggers are configured with is what is given, filled. -/
theorem Configures.eq_configured (hc : r.Configures members out) (h : r.Registered)
    (hr : r.TriggersOrdered) (hordered : OrderedMembers members) :
    out = r.configured members := by
  have hsorted : Dict.Sorted out := by
    rw [Dict.sorted_iff_keys, hc.keys]
    exact Dict.sorted_iff_keys.1 h.sorted
  refine Dict.eq_of_get? hsorted (h.sorted_configured members) fun k => ?_
  rw [get?_configured]
  cases ht : Dict.get? k r.triggers with
  | none => exact Dict.get?_eq_none (hc.keys ▸ not_mem_triggerKeyNames ht)
  | some t =>
      have hkey : k ∈ r.triggerKeyNames := mem_triggerKeyNames.2 ⟨t, ht⟩
      by_cases hnull : orNull (Dict.get? k members) = .null
      · rw [hc.spared k hkey hnull, Option.map_some, hnull, ObjectSchema.fill_null]
      · cases hk : Dict.get? k members with
        | none => exact absurd (by rw [hk]; rfl) hnull
        | some v =>
            rw [hk] at hnull
            rw [(hc.satisfies h hr hordered hk hnull ht).2]
            rfl

end Configures

/-- A configuration is decoded trigger by trigger. -/
theorem decodeParsed_subscriptionSchema {r : Registry m} (h : r.Registered)
    (hr : r.TriggersOrdered) {v n : Json} (hv : v.Ordered) :
    Codec.decodeParsed r.subscriptionSchema v = .ok n ↔
      ∃ members out, v = .object members ∧ n = .object out ∧ r.Configures members out := by
  rw [Codec.decodeParsed_eq_ok (ordered_subscriptionSchema h hr) hv]
  constructor
  · rintro ⟨hs, rfl⟩
    obtain ⟨members, rfl⟩ : ∃ members, v = .object members := by
      cases hs
      exact ⟨_, rfl⟩
    have hc := configures_configured h hr hv hs
    rw [Json.Ordered] at hv
    exact ⟨members, _, rfl, fill_subscriptionSchema h hv.1 hc.named_of_get?, hc⟩
  · rintro ⟨members, out, rfl, rfl, hc⟩
    rw [Json.Ordered] at hv
    refine ⟨satisfies_subscriptionSchema.2 ⟨hc.named_of_get?, fun k v t hk hne ht =>
      (hc.satisfies h hr hv.2 hk hne ht).1⟩, ?_⟩
    rw [fill_subscriptionSchema h hv.1 hc.named_of_get?, hc.eq_configured h hr hv.2]

/-- A subscription to one trigger is what that trigger by itself makes of it. -/
theorem decodeParsed_one {r : Registry m} (h : r.Registered) (hr : r.TriggersOrdered)
    {key : String} {t : Function} (ht : Dict.get? key r.triggers = some t) {v n : Json}
    (hv : v.Ordered) (hne : v ≠ .null) :
    Codec.decodeParsed r.subscriptionSchema (.object [(key, v)]) = .ok n ↔
      ∃ own, Codec.decodeParsed t.schema v = .ok own ∧
        n = .object (r.triggerKeyNames.map fun k => (k, if k = key then own else .null)) := by
  have hmembers : Dict.Sorted [(key, v)] := List.pairwise_singleton ..
  have hordered : (Json.object [(key, v)]).Ordered := ⟨hmembers, hv, trivial⟩
  have hget : ∀ {k w}, Dict.get? k [(key, v)] = some w → k = key ∧ w = v := by
    intro k w hk
    obtain ⟨rfl, rfl⟩ := Prod.mk.inj (List.mem_singleton.1 (Dict.mem_of_get? hk))
    exact ⟨rfl, rfl⟩
  have hnamed : ∀ k w, Dict.get? k [(key, v)] = some w → k ∈ r.triggerKeyNames :=
    fun k w hk => (hget hk).1 ▸ mem_triggerKeyNames.2 ⟨t, ht⟩
  have hsatisfies : r.subscriptionSchema.Satisfies (.object [(key, v)]) ↔
      t.schema.Satisfies v := by
    rw [satisfies_subscriptionSchema, and_iff_right hnamed]
    refine ⟨fun hs => hs key v t (if_pos rfl) hne ht, fun hs k w t' hk _ ht' => ?_⟩
    obtain ⟨rfl, rfl⟩ := hget hk
    cases ht.symm.trans ht'
    exact hs
  have hfill : r.subscriptionSchema.fill (.object [(key, v)]) = .object (r.triggerKeyNames.map
      fun k => (k, if k = key then t.schema.fill v else .null)) := by
    rw [fill_subscriptionSchema h hmembers hnamed, configured, triggerKeyNames, Dict.keys,
      List.map_map]
    refine congrArg _ (List.map_congr_left fun e he => ?_)
    have hfound : Dict.get? e.1 r.triggers = some e.2 := Dict.get?_of_sorted h.sorted he
    rw [Function.comp, Dict.get?_cons]
    split
    case isTrue hkey =>
      rw [hkey] at hfound
      cases ht.symm.trans hfound
      rfl
    case isFalse => simp [orNull]
  rw [Codec.decodeParsed_eq_ok (ordered_subscriptionSchema h hr) hordered, hsatisfies, hfill]
  simp only [h.decodeParsed_own hr ht hv]
  constructor
  · rintro ⟨hs, rfl⟩
    exact ⟨_, ⟨hs, rfl⟩, rfl⟩
  · rintro ⟨_, ⟨hs, rfl⟩, rfl⟩
    exact ⟨hs, rfl⟩

/-- Whatever has been registered, there is a schema for the configuration of subscriptions. It is
valid, has no attributes, and has one block per trigger, which is optional and holds the trigger's
own schema. A value is taken by it if it is an object that gives nothing but what triggers take
by themselves, and then it comes to what each of them makes of its own. -/
theorem triggerConfigurationSchema_composes {registrations : List (Registration m)}
    {r : Registry m} (hbuilt : r = build registrations) (hr : r.TriggersOrdered) :
    ∃ schema, r.triggerConfigurationSchema = .ok schema ∧
      schema.validate = .ok () ∧
      schema.attributes = [] ∧
      Dict.keys schema.blocks = r.triggerKeyNames ∧ r.triggerKeyNames.Nodup ∧
      (∀ e ∈ schema.blocks, e.2.name = e.1 ∧ e.2.required = false ∧
        ∃ t, r.trigger e.1 = .ok t ∧ t.configurationSchema = .ok e.2.nested) ∧
      (∀ v n : Json, v.Ordered → (Codec.decodeParsed schema v = .ok n ↔
        ∃ members out, v = .object members ∧ n = .object out ∧ r.Configures members out)) ∧
      (∀ bytes n, Codec.decodeInput bytes schema = .ok n ↔
        ∃ members out, Json.ofBytes? bytes = some (.object members) ∧ n = .object out ∧
          r.Configures members out) ∧
      ∀ key t own v n, r.trigger key = .ok t → t.configurationSchema = .ok own →
        v.Ordered → v ≠ .null →
        (Codec.decodeParsed schema (.object [(key, v)]) = .ok n ↔
          ∃ w, Codec.decodeParsed own v = .ok w ∧
            n = .object (r.triggerKeyNames.map fun k => (k, if k = key then w else .null))) := by
  have h : r.Registered := hbuilt ▸ registered_build registrations
  refine ⟨r.subscriptionSchema, triggerConfigurationSchema_eq h,
    ObjectSchema.validate_eq_ok.2 (valid_subscriptionSchema h), rfl, keys_blocks r,
    Dict.nodup_keys h.sorted, ?_, fun v n => decodeParsed_subscriptionSchema h hr, ?_, ?_⟩
  · intro e he
    obtain ⟨t, ht, rfl⟩ := List.mem_map.1 he
    have hfound := Dict.get?_of_sorted h.sorted ht
    exact ⟨rfl, rfl, t.2, trigger_eq_ok.2 hfound, h.schema_of_get? hfound⟩
  · intro bytes n
    rw [Codec.decodeInput_eq_parse, bind_eq_ok]
    constructor
    · rintro ⟨v, hparse, hdecode⟩
      obtain ⟨hread, -⟩ := Codec.parse_eq_ok.1 hparse
      obtain ⟨members, out, rfl, hout⟩ := (decodeParsed_subscriptionSchema h hr
        (Codec.ordered_of_ofBytes? hread)).1 hdecode
      exact ⟨members, out, hread, hout⟩
    · rintro ⟨members, out, hread, hout⟩
      exact ⟨_, Codec.parse_eq_ok.2 ⟨hread, nofun⟩, (decodeParsed_subscriptionSchema h hr
        (Codec.ordered_of_ofBytes? hread)).2 ⟨members, out, rfl, hout⟩⟩
  · intro key t own v n ht hown hv hne
    rw [trigger_eq_ok] at ht
    cases hown.symm.trans (h.schema_of_get? ht)
    exact decodeParsed_one h hr ht hv hne

end Registry

namespace Demo

theorem triggersOrdered_functions : functions.TriggersOrdered := by
  intro key t schema ht hschema
  rw [eq_webhook_of_trigger ht] at hschema
  cases hschema
  decide

/-- A subscription to the webhook, at a path. -/
def webhookInput : Json := .object [("path", .string "/orders")]

theorem triggerConfigurationSchema_composes_webhook :
    functions = Registry.build registrations ∧ functions.TriggersOrdered ∧
      ∃ schema, functions.triggerConfigurationSchema = .ok schema ∧
        schema.validate = .ok () ∧ Dict.keys schema.blocks = ["webhook"] ∧
        Codec.decodeParsed schema (.object [("webhook", webhookInput)])
          = .ok (.object [("webhook", webhookInput)]) := by
  have hbuilt : functions = Registry.build registrations := build_registrations.symm
  obtain ⟨schema, hschema, hvalid, -, hkeys, -, -, -, -, hone⟩ :=
    Registry.triggerConfigurationSchema_composes hbuilt triggersOrdered_functions
  have hordered : webhookInput.Ordered := by decide
  have hown : Codec.decodeParsed (attributes [("path", .string, true)]) webhookInput
      = .ok webhookInput := rfl
  exact ⟨hbuilt, triggersOrdered_functions, schema, hschema, hvalid, hkeys,
    (hone "webhook" webhook _ _ _ rfl rfl hordered nofun).2 ⟨_, hown, rfl⟩⟩

end Demo

end ProviderLink
