/-
What a configuration that was taken over has of the file that it comes
from. Loading checks one thing after the other and changes nothing but
the settings of the contexts, each of which is encoded by itself: so a
file is taken exactly if every check is passed, and the configuration is
then the file with its settings as texts (`ofFile_eq_ok`).

One of the checks is made again whenever a version is held against the
requirement, which is kept as text. It was passed once, so it is passed
each time: a version may be unsupported, but the requirement is never
what is at fault (`exists_unsupported_of_ofFile`).
-/
import ProviderLink.Proofs.Dict
import ProviderLink.Proofs.Outcome
import ProviderLink.Runner.Connect

namespace ProviderLink.RunnerConfig

-- ============================================================= contexts

/-- What a provider is given of the settings of a context. -/
def settingsBytes (settings : Dict String Toml) : Bytes :=
  (Toml.entriesJson settings).text.toUTF8

/-- All contexts are encoded if every id is in order, and each then by itself. -/
theorem encodeContexts_eq_ok {contexts : List (String × Dict String Toml)}
    {encoded : List (String × Bytes)} :
    encodeContexts contexts = .ok encoded ↔ (∀ e ∈ contexts, checkContextId e.1 = .ok ())
      ∧ encoded = Dict.mapValues settingsBytes contexts := by
  induction contexts generalizing encoded with
  | nil =>
      rw [encodeContexts, Except.ok.injEq, eq_comm]
      exact (and_iff_right nofun).symm
  | cons e contexts ih =>
      obtain ⟨id, settings⟩ := e
      rw [encodeContexts, check_bind_eq_ok, bind_eq_ok, List.forall_mem_cons, and_assoc]
      refine and_congr_right fun _ => ?_
      simp only [ih]
      constructor
      · rintro ⟨_, ⟨hids, rfl⟩, heq⟩
        exact ⟨hids, (Except.ok.inj heq).symm⟩
      · rintro ⟨hids, rfl⟩
        exact ⟨_, ⟨hids, rfl⟩, rfl⟩

-- ============================================================== loading

/-- A file is taken over if all its checks are passed, with the settings of each context as
text. -/
theorem ofFile_eq_ok {file : ConfigFile} {c : RunnerConfig} :
    ofFile file = .ok c ↔
      (checkAddress "global.public_ingest_uri" file.global.publicIngestUri = .ok ()
        ∧ checkAddress "global.private_ingest_uri" file.global.privateIngestUri = .ok ()
        ∧ checkRequirement file.protocolVersion = .ok ()
        ∧ ∀ e ∈ file.contexts, checkContextId e.1 = .ok ())
      ∧ c = ⟨⟨file.global, Dict.mapValues settingsBytes file.contexts⟩, file.protocolVersion⟩ := by
  rw [ofFile, check_bind_eq_ok, check_bind_eq_ok, check_bind_eq_ok, bind_eq_ok, and_assoc,
    and_assoc, and_assoc]
  refine and_congr_right fun _ => and_congr_right fun _ => and_congr_right fun _ => ?_
  simp only [encodeContexts_eq_ok, and_assoc]
  constructor
  · rintro ⟨_, hids, rfl, heq⟩
    exact ⟨hids, (Except.ok.inj heq).symm⟩
  · rintro ⟨hids, rfl⟩
    exact ⟨_, hids, rfl, rfl⟩

-- ============================================================= versions

/-- The release meets the requirement, if there is one. -/
def Meets (requirement : Option String) (v : Version.Release) : Prop :=
  ∀ text, requirement = some text →
    ∃ r, Version.Requirement.ofText? text = some r ∧ r.accepts v = true

/-- A version is supported if its first release meets the requirement. -/
theorem supportsProtocol_eq_ok {requirement : Option String} {v : UInt32} :
    supportsProtocol requirement v = .ok () ↔ Meets requirement ⟨v.toNat, 0, 0⟩ := by
  cases requirement with
  | none => exact iff_of_true rfl nofun
  | some text =>
      have hmeets : Meets (some text) ⟨v.toNat, 0, 0⟩ ↔ ∃ r,
          Version.Requirement.ofText? text = some r ∧ r.accepts ⟨v.toNat, 0, 0⟩ = true :=
        ⟨fun h => h text rfl, fun h _ heq => Option.some.inj heq ▸ h⟩
      rw [hmeets, supportsProtocol]
      cases Version.Requirement.ofText? text with
      | none => exact iff_of_false nofun nofun
      | some r =>
          dsimp only
          split
          case isTrue haccepts => exact iff_of_true rfl ⟨r, rfl, haccepts⟩
          case isFalse hrefuses =>
            refine iff_of_false nofun ?_
            rintro ⟨_, heq, haccepts⟩
            exact hrefuses (Option.some.inj heq ▸ haccepts)

/-- Of a configuration that was taken over, the requirement that a version fails to meet is
one. -/
theorem exists_unsupported_of_ofFile {file : ConfigFile} {c : RunnerConfig}
    (h : ofFile file = .ok c) {version : UInt32} {fault : VersionFault}
    (hfault : supportsProtocol c.protocolVersion version = .error fault) :
    ∃ text, c.protocolVersion = some text ∧ fault = .unsupported text version := by
  obtain ⟨⟨-, -, hrequirement, -⟩, rfl⟩ := ofFile_eq_ok.1 h
  dsimp only at hfault ⊢
  cases hversion : file.protocolVersion with
  | none =>
      rw [hversion] at hfault
      cases hfault
  | some text =>
      rw [hversion, checkRequirement] at hrequirement
      rw [hversion, supportsProtocol] at hfault
      cases hparsed : Version.Requirement.ofText? text with
      | none =>
          -- the text would have been turned down when the file was loaded
          rw [hparsed] at hrequirement
          cases hrequirement
      | some r =>
          rw [hparsed] at hfault
          dsimp only at hfault
          split at hfault
          · cases hfault
          · cases hfault
            exact ⟨text, rfl, rfl⟩

end ProviderLink.RunnerConfig
