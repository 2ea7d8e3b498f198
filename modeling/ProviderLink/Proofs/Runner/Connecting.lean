/-
Connecting under a configuration and connecting without one. Both are
the same handshake, and what the provider answers is read before anything
is asked of its version; the configuration only adds a condition, which
the version must meet first. So which of the two conditions failed can be
told from the outcome, but whether one failed cannot depend on their
order (`connect_required`): the configured connection is the plain one
and a requirement that takes the version spoken here.

The configuration is one that was taken over, and its requirement is in
order. That leaves one reason for which its condition may fail.
-/
import ProviderLink.Proofs.Rpc.ClientExchange
import ProviderLink.Proofs.Runner.Config

namespace ProviderLink

open Rpc

-- ============================================================ handshake

/-- The request with which a connection is opened. -/
def Rpc.helloRequest : Request := handshakeRequest (.number 1) .current

/-- Whatever is asked of the version, connecting is one exchange, and the same for one who
overhears it. -/
theorem Rpc.Client.connectIf_overheard {τ : Type} [Transport τ]
    (accept : UInt32 → Except String Unit) (t : τ) :
    connectIf accept (⟨t, []⟩ : Overheard τ) = ((connectIf accept t).1,
      ⟨⟨(Transport.exchange helloRequest t).2, [carry helloRequest t]⟩, 2⟩) := by
  rw [connectIf_eq, connectIf_eq]
  rfl

/-- The outcome is that of the answer. -/
theorem Rpc.Client.connectIf_answer {σ τ : Type} [Transport σ] [Transport τ]
    (accept : UInt32 → Except String Unit) {s : σ} {t : τ}
    (h : (carry helloRequest s).answer = (carry helloRequest t).answer) :
    (connectIf accept s).1 = (connectIf accept t).1 := by
  have hrequest : ((⟨s, 1⟩ : Client σ).request .handshake
      HandshakeParams.current.toJson.canonical HandshakeResult.read).1
      = ((⟨t, 1⟩ : Client τ).request .handshake
        HandshakeParams.current.toJson.canonical HandshakeResult.read).1 :=
    congrArg (fun answer => answer.bind
      (readResponse .handshake (.number 1) HandshakeResult.read)) h
  rw [connectIf_eq, connectIf_eq]
  dsimp only
  rw [hrequest]

namespace RunnerConfig

-- =========================================================== connecting

/-- What is asked of a version comes down to the requirement. -/
theorem acceptsVersion_eq_ok {c : RunnerConfig} {version : UInt32} :
    c.acceptsVersion version = .ok () ↔ Meets c.protocolVersion ⟨version.toNat, 0, 0⟩ := by
  rw [acceptsVersion, mapError_eq_ok, supportsProtocol_eq_ok]

/-- Connecting under a configuration succeeds if connecting without one does and the requirement
takes the version spoken here. -/
theorem connect_eq_ok {τ : Type} [Transport τ] {c : RunnerConfig} {t : τ} :
    (c.connect t).1 = .ok () ↔
      (Client.connect t).1 = .ok () ∧ Meets c.protocolVersion ⟨2, 0, 0⟩ := by
  rw [connect, Client.connect, Client.connectIf_eq_ok, Client.connectIf_eq_ok]
  constructor
  · rintro ⟨result, hresult, haccept, hversion⟩
    rw [hversion] at haccept
    exact ⟨⟨result, hresult, rfl, hversion⟩, acceptsVersion_eq_ok.1 haccept⟩
  · rintro ⟨⟨result, hresult, -, hversion⟩, hmeets⟩
    refine ⟨result, hresult, ?_, hversion⟩
    rw [hversion]
    exact acceptsVersion_eq_ok.2 hmeets

/-- A provider may be connected to under a configuration that was taken over exactly if it may be
connected to over a transport that brings the same answer, and the requirement, if there is one,
takes version 2.0.0. Either way there is one exchange, the handshake; whatever fails is a failure
of the transport; and of no version is it said that the requirement is none. -/
theorem connect_required {file : ConfigFile} {c : RunnerConfig} (h : ofFile file = .ok c)
    {σ τ : Type} [Transport σ] [Transport τ] {s : σ} {t : τ}
    (hsame : (carry helloRequest s).answer = (carry helloRequest t).answer) :
    ((c.connect s).1 = .ok () ↔
        (Client.connect t).1 = .ok () ∧ Meets c.protocolVersion ⟨2, 0, 0⟩)
      ∧ c.connect (⟨s, []⟩ : Overheard σ) = ((c.connect s).1,
          ⟨⟨(Transport.exchange helloRequest s).2, [carry helloRequest s]⟩, 2⟩)
      ∧ Client.connect (⟨t, []⟩ : Overheard τ) = ((Client.connect t).1,
          ⟨⟨(Transport.exchange helloRequest t).2, [carry helloRequest t]⟩, 2⟩)
      ∧ (∀ e, (c.connect s).1 = .error e → ∃ why, e = .transport why)
      ∧ (∀ e, (Client.connect t).1 = .error e → ∃ why, e = .transport why)
      ∧ ∀ version fault, supportsProtocol c.protocolVersion version = .error fault →
          ∃ text, c.protocolVersion = some text ∧ fault = .unsupported text version := by
  refine ⟨?_, Client.connectIf_overheard c.acceptsVersion s, Client.connectIf_overheard _ t,
    fun e => Client.transport_of_connectIf, fun e => Client.transport_of_connectIf,
    fun version fault => exists_unsupported_of_ofFile h⟩
  have hplain : (Client.connect s).1 = (Client.connect t).1 := Client.connectIf_answer _ hsame
  rw [connect_eq_ok, hplain]

/-- A configuration file without contexts. -/
def demoFile (requirement : String) : ConfigFile :=
  ⟨some requirement, ⟨"https://hooks.example.com/ingest", "http://127.0.0.1:9400/ingest"⟩, []⟩

/-- What is made of it. -/
def demoConfig (requirement : String) : RunnerConfig :=
  ⟨⟨(demoFile requirement).global, []⟩, some requirement⟩

/-- A provider that speaks version 2, and then no more. -/
def demoProvider : Prepared :=
  ⟨[.ok ⟨version, .number 1, some (HandshakeResult.mk 2).toJson, none⟩]⟩

/-- Of two requirements one takes version 2 and one does not; without either, the provider may be
connected to. -/
theorem connect_required_demo :
    ofFile (demoFile "^2") = .ok (demoConfig "^2")
      ∧ ofFile (demoFile ">=3") = .ok (demoConfig ">=3")
      ∧ (Client.connect demoProvider).1 = .ok ()
      ∧ ((demoConfig "^2").connect demoProvider).1 = .ok ()
      ∧ ¬((demoConfig ">=3").connect demoProvider).1 = .ok () := by
  have hpublic : checkAddress "global.public_ingest_uri" "https://hooks.example.com/ingest"
      = .ok () := eq_ok_of_isOk (by decide +kernel)
  have hprivate : checkAddress "global.private_ingest_uri" "http://127.0.0.1:9400/ingest"
      = .ok () := eq_ok_of_isOk (by decide +kernel)
  have hcaret : ofFile (demoFile "^2") = .ok (demoConfig "^2") :=
    ofFile_eq_ok.2 ⟨⟨hpublic, hprivate, rfl, nofun⟩, rfl⟩
  have hlater : ofFile (demoFile ">=3") = .ok (demoConfig ">=3") :=
    ofFile_eq_ok.2 ⟨⟨hpublic, hprivate, rfl, nofun⟩, rfl⟩
  have hplain : (Client.connect demoProvider).1 = .ok () := rfl
  have hmeets : Meets (demoConfig "^2").protocolVersion ⟨2, 0, 0⟩ :=
    (supportsProtocol_eq_ok (v := 2)).1 rfl
  have hmisses : ¬Meets (demoConfig ">=3").protocolVersion ⟨2, 0, 0⟩ := fun h => by
    have hsupports := (supportsProtocol_eq_ok (v := 2)).2 h
    have hfails : supportsProtocol (some ">=3") 2 = .error (.unsupported ">=3" 2) := rfl
    cases hfails.symm.trans hsupports
  exact ⟨hcaret, hlater, hplain,
    (connect_required hcaret (s := demoProvider) (t := demoProvider) rfl).1.2 ⟨hplain, hmeets⟩,
    fun h => hmisses ((connect_required hlater (s := demoProvider) (t := demoProvider) rfl).1.1
      h).2⟩

end RunnerConfig

end ProviderLink
