/-
What a provider finds in the settings that a runner hands it. A runner
keeps the settings of each context as text, and no other contexts than
the file has; read as JSON, the text mirrors the table that stands in the
file (`ofFile_mirrors`), as far as JSON text may nest. That the table is in
key order at every level is no more than what a file is read as
(`ConfigFile.ordered_of_ofToml?`).
-/
import ProviderLink.Proofs.Runner.Config
import ProviderLink.Proofs.Toml.Document

namespace ProviderLink

-- =============================================================== files

namespace ConfigFile

open Toml

/-- The settings of a context are in order. -/
theorem ordered_context? {node : Node} {settings : Dict String Toml} (h : node.Plain)
    (hsettings : context? node = some settings) : (table settings).Ordered := by
  have hentries : ∀ {es : Entries}, es.Plain →
      (Node.pairs? es).map Dict.ofList = some settings → (table settings).Ordered := by
    intro es hes hpairs
    obtain ⟨entries, hentries, rfl⟩ := Option.map_eq_some_iff.1 hpairs
    exact ordered_ofList (ordered_pairs? (fun e he => (hes e he).ordered) hentries)
  cases h with
  | @scalar v _ =>
      cases v with
      | datetime d =>
          cases hsettings
          exact ⟨List.pairwise_singleton _ _, trivial, trivial⟩
      | _ => cases hsettings
  | inline h => exact hentries h hsettings
  | table h => exact hentries h hsettings
  | _ => cases hsettings

theorem contextList?_eq (es : Entries) :
    contextList? es = es.mapM fun e => (context? e.2).map fun settings => (e.1, settings) := by
  induction es with
  | nil => rfl
  | cons e rest ih =>
      rw [List.mapM_cons, ← ih, contextList?]
      cases context? e.2 <;> rfl

theorem ordered_contexts? {node : Option Node} {contexts : Dict String (Dict String Toml)}
    (h : ∀ n ∈ node, n.Plain) (hcontexts : contexts? node = some contexts) :
    ∀ e ∈ contexts, (table e.2).Ordered := by
  have hentries : ∀ {es : Entries}, es.Plain →
      (contextList? es).map Dict.ofList = some contexts → ∀ e ∈ contexts, (table e.2).Ordered := by
    intro es hes hlist e he
    obtain ⟨entries, hentries, rfl⟩ := Option.map_eq_some_iff.1 hlist
    rw [contextList?_eq] at hentries
    refine forall_of_mapM (P := fun e => (table e.2).Ordered) (fun e he e' he' => ?_) hentries e
      (Dict.mem_of_mem_ofList he)
    obtain ⟨settings, hsettings, rfl⟩ := Option.map_eq_some_iff.1 he'
    exact ordered_context? (hes e he) hsettings
  cases node with
  | none =>
      cases hcontexts
      exact fun _ hmem => absurd hmem List.not_mem_nil
  | some n =>
      cases h n rfl with
      | inline hes => exact hentries hes hcontexts
      | table hes => exact hentries hes hcontexts
      | _ => cases hcontexts

/-- The settings of all contexts of a document are in order. -/
theorem ordered_of_ofToml? {text : String} {file : ConfigFile} (h : ofToml? text = some file) :
    ∀ e ∈ file.contexts, (table e.2).Ordered := by
  obtain ⟨es, hes, h⟩ := Option.bind_eq_some_iff.1 h
  have hplain := Entries.plain_ofText? hes
  unfold ofEntries? at h
  split at h
  · cases h
  · obtain ⟨_, -, h⟩ := Option.bind_eq_some_iff.1 h
    obtain ⟨_, -, h⟩ := Option.bind_eq_some_iff.1 h
    obtain ⟨_, -, h⟩ := Option.bind_eq_some_iff.1 h
    obtain ⟨contexts, hcontexts, heq⟩ := Option.bind_eq_some_iff.1 h
    cases heq
    exact ordered_contexts? (fun n hn => hplain.get? hn) hcontexts

end ConfigFile

namespace RunnerConfig

-- ============================================================ settings

/-- Of a file that is taken over, each context has its settings as a JSON text that mirrors them if
they do not nest too deep. -/
theorem ofFile_mirrors {file : ConfigFile} {c : RunnerConfig} (h : ofFile file = .ok c) :
    Dict.keys c.userConfig = Dict.keys file.contexts
      ∧ ∀ id settings, Dict.get? id file.contexts = some settings →
        (Toml.table settings).Ordered → (Toml.table settings).depth < Json.maxDepth →
        ∃ bytes v, Dict.get? id c.userConfig = some bytes ∧ Json.ofBytes? bytes = some v
          ∧ Toml.Mirrors (.table settings) v := by
  obtain ⟨-, rfl⟩ := ofFile_eq_ok.1 h
  refine ⟨Dict.keys_mapValues settingsBytes file.contexts, ?_⟩
  intro id settings hfound hordered hdepth
  obtain ⟨v, hread, hmirrors⟩ := Toml.ofBytes?_entriesJson hordered hdepth
  refine ⟨settingsBytes settings, v, ?_, hread, hmirrors⟩
  exact (Dict.get?_mapValues settingsBytes id file.contexts).trans
    (congrArg (Option.map settingsBytes) hfound)

/-- The largest odd whole number that is a double, and the double below it. -/
def demoBound : Binary64 := ⟨false, 9007199254740991 * Binary64.scale, by decide +kernel⟩

def demoBelow : Binary64 := ⟨false, 9007199254740990 * Binary64.scale, by decide +kernel⟩

/-- Settings with a float, a date and an array of a string and a table. -/
def demoSettings : Dict String Toml :=
  [("bound", .float (some demoBound)),
    ("hosts", .array [.string "a", .table [("port", .integer 80)]]),
    ("since", .datetime (.date ⟨1979, 5, 27⟩))]

def demoSettingsFile : ConfigFile :=
  ⟨none, ⟨"https://hooks.example.com/ingest", "http://127.0.0.1:9400/ingest"⟩,
    [("dated", demoSettings)]⟩

/-- What is read of the settings. -/
def demoSettingsRead : Json :=
  .object [("bound", .number (.float demoBelow)),
    ("hosts", .array [.string "a", .object [("port", .number (.ofInt64 80))]]),
    ("since", .object [(Toml.marker, .string "1979-05-27")])]

theorem ofBytes?_demoSettings :
    Json.ofBytes? (settingsBytes demoSettings) = some demoSettingsRead := by
  have hread : (Toml.entriesJson demoSettings).readBack = demoSettingsRead := by decide +kernel
  rw [settingsBytes, Json.ofBytes?_text_readBack (by decide), hread]

theorem ofFile_demoSettings : ∃ c, ofFile demoSettingsFile = .ok c
    ∧ Dict.get? "dated" c.userConfig = some (settingsBytes demoSettings) := by
  have hpublic : checkAddress "global.public_ingest_uri" "https://hooks.example.com/ingest"
      = .ok () := eq_ok_of_isOk (by decide +kernel)
  have hprivate : checkAddress "global.private_ingest_uri" "http://127.0.0.1:9400/ingest"
      = .ok () := eq_ok_of_isOk (by decide +kernel)
  have hids : ∀ e ∈ demoSettingsFile.contexts, checkContextId e.1 = .ok () := by
    intro e he
    cases List.mem_singleton.1 he
    exact eq_ok_of_isOk (by decide +kernel)
  exact ⟨_, ofFile_eq_ok.2 ⟨⟨hpublic, hprivate, rfl, hids⟩, rfl⟩, rfl⟩

/-- The settings are taken over, and what is read of them has an object for the date and for the
float its neighbour. -/
theorem ofFile_mirrors_dated :
    (Toml.table demoSettings).Ordered ∧ (Toml.table demoSettings).depth < Json.maxDepth
      ∧ ∃ c bytes, ofFile demoSettingsFile = .ok c ∧ Dict.keys c.userConfig = ["dated"]
        ∧ Dict.get? "dated" c.userConfig = some bytes
        ∧ Json.ofBytes? bytes = some demoSettingsRead
        ∧ Toml.Mirrors (.table demoSettings) demoSettingsRead := by
  have hordered : (Toml.table demoSettings).Ordered :=
    ⟨by decide, trivial, ⟨trivial, ⟨by decide, trivial, trivial⟩, trivial⟩, trivial, trivial⟩
  have hdepth : (Toml.table demoSettings).depth < Json.maxDepth := by decide
  obtain ⟨c, hfile, hbytes⟩ := ofFile_demoSettings
  obtain ⟨hkeys, hcontexts⟩ := ofFile_mirrors hfile
  obtain ⟨bytes, v, hfound, hread, hmirrors⟩ := hcontexts "dated" demoSettings rfl hordered hdepth
  have hbytes' : settingsBytes demoSettings = bytes := Option.some.inj (hbytes.symm.trans hfound)
  have hv : demoSettingsRead = v := by
    rw [← hbytes', ofBytes?_demoSettings] at hread
    exact Option.some.inj hread
  rw [← hv] at hread hmirrors
  exact ⟨hordered, hdepth, c, bytes, hfile, hkeys, hfound, hread, hmirrors⟩

/-- A date is not read as a scalar, and not every float that is finite keeps its value. -/
theorem ofFile_not_scalar :
    (∃ c, ofFile demoSettingsFile = .ok c
      ∧ Dict.get? "dated" c.userConfig = some (settingsBytes demoSettings))
      ∧ Dict.get? "dated" demoSettingsFile.contexts = some demoSettings
      ∧ (Toml.table demoSettings).depth < Json.maxDepth
      ∧ Dict.get? "since" demoSettings = some (.datetime (.date ⟨1979, 5, 27⟩))
      ∧ Dict.get? "bound" demoSettings = some (.float (some demoBound))
      ∧ Json.ofBytes? (settingsBytes demoSettings) = some demoSettingsRead
      ∧ demoSettingsRead.member? "since" = some (.object [(Toml.marker, .string "1979-05-27")])
      ∧ demoSettingsRead.member? "bound" = some (.number (.float demoBelow))
      ∧ demoBelow ≠ demoBound :=
  ⟨ofFile_demoSettings, rfl, by decide, rfl, rfl, ofBytes?_demoSettings, rfl, rfl,
    by decide +kernel⟩

end RunnerConfig

end ProviderLink
