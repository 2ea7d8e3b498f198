/-
A server with all its connections. Lines come in over any of them in any
order, well formed or not; each is answered at once and may change the
server, which the connections share, and its own connection.

What the provider sees of all this is a life (`Life`): schema requests,
then `init` at most once, and after that everything but `init` if it
succeeded and nothing at all if it failed. A line adds one call to
the life or none (`Moves`), and a move keeps a life a life (`Moves.life`),
which is the induction over the lines.
-/
import ProviderLink.Proofs.Provider.Run
import ProviderLink.Proofs.Rpc.Server

namespace ProviderLink.Rpc

/-- A server and its connections, by any names. -/
structure Hub (ι π : Type) where
  server : Server π
  connections : ι → Connection

namespace Hub

variable {ι π : Type}

/-- A new server that no connection has said anything to. -/
def new (provider : π) : Hub ι π := ⟨.new provider, fun _ => .new⟩

variable [DecidableEq ι] [Provider π]

/-- Answers a line that came in over a connection. -/
def line (h : Hub ι π) (l : ι × String) : Response × Hub ι π :=
  let (response, server, connection) := h.server.handleLine (h.connections l.1) l.2
  (response, ⟨server, fun i => if i = l.1 then connection else h.connections i⟩)

/-- Answers lines in the order they come in. -/
def run : List (ι × String) → Hub ι π → List Response × Hub ι π
  | [], h => ([], h)
  | l :: rest, h =>
    let (response, h) := h.line l
    let (responses, h) := run rest h
    (response :: responses, h)

/-- A server and its connections after some lines to a new server of a provider. -/
def after (provider : π) (lines : List (ι × String)) : Hub ι (Transcript π) :=
  (run lines (.new ⟨provider, []⟩)).2

theorem server_line (h : Hub ι π) (l : ι × String) :
    (h.line l).2.server = (h.server.handleLine (h.connections l.1) l.2).2.1 := rfl

theorem run_cons (l : ι × String) (rest : List (ι × String)) (h : Hub ι π) :
    run (l :: rest) h
      = ((h.line l).1 :: (run rest (h.line l).2).1, (run rest (h.line l).2).2) := rfl

end Hub

-- ================================================================ lives

/-- What a provider has received by the time it is somewhere in its life. -/
def Life : Lifecycle → List Answered → Prop
  | .uninitialized, log => ∀ a ∈ log, a.call = .initSchema
  | .ready config, log => ∃ before runner after,
      log = before ++ ⟨.init runner, .ok config⟩ :: after
        ∧ (∀ a ∈ before, a.call = .initSchema) ∧ ∀ a ∈ after, a.call.kind ≠ .init
  | .failed reason, log => ∃ before runner e,
      log = before ++ [⟨.init runner, .error e⟩]
        ∧ (∀ a ∈ before, a.call = .initSchema) ∧ reason = e.message

/-- What one line may do to a provider and its life: ask it at most one thing that is not
`init` and leave its life alone, or initialize it and thereby make it ready or failed. Before
`init` only schemas are asked for, and after its failure nothing. -/
inductive Moves {π : Type} (s : Server (Transcript π)) : Server (Transcript π) → Prop
  | unasked : Moves s s
  | asked (a : Answered) (provider : π) (hinit : a.call.kind ≠ .init)
    (hbefore : s.lifecycle = .uninitialized → a.call = .initSchema)
    (hfailed : ∀ reason, s.lifecycle ≠ .failed reason) :
    Moves s ⟨⟨provider, s.provider.log ++ [a]⟩, s.lifecycle⟩
  | readied (runner : RunnerData) (config : ProviderConfig) (provider : π)
    (h : s.lifecycle = .uninitialized) :
    Moves s ⟨⟨provider, s.provider.log ++ [⟨.init runner, .ok config⟩]⟩, .ready config⟩
  | failed (runner : RunnerData) (e : ProviderError) (provider : π)
    (h : s.lifecycle = .uninitialized) :
    Moves s ⟨⟨provider, s.provider.log ++ [⟨.init runner, .error e⟩]⟩, .failed e.message⟩

namespace Server

/-- The gate lets `init` through once. -/
theorem uninitialized_of_gate {lifecycle : Lifecycle} {kind : Call.Kind}
    (h : gate lifecycle kind = .ok ()) (hinit : kind = .init) :
    lifecycle = .uninitialized := by
  subst hinit
  cases lifecycle with
  | uninitialized => rfl
  | ready => cases h
  | failed => cases h

/-- Before `init` the gate lets nothing through but it and the schema request. -/
theorem eq_initSchema_of_gate {c : Call} (h : gate .uninitialized c.kind = .ok ())
    (hinit : c.kind ≠ .init) : c = .initSchema := by
  cases c with
  | init => exact absurd rfl hinit
  | initSchema => rfl
  | _ => cases h

variable {π : Type} [Provider π]

/-- A call that the gate lets through is a move. -/
theorem perform_moves {s : Server (Transcript π)} {c : Call}
    (h : gate s.lifecycle c.kind = .ok ()) : Moves s (s.perform c).2 := by
  obtain ⟨⟨p, log⟩, lifecycle⟩ := s
  rw [perform_eq]
  -- only `init` moves the lifecycle, and the gate let it through only before it was called
  by_cases hinit : c.kind = .init
  · have hlife := uninitialized_of_gate h hinit
    cases c with
    | init runner =>
        have hcall : Provider.call (.init runner) (⟨p, log⟩ : Transcript π)
            = ((Provider.call (.init runner) p).1, ⟨(Provider.call (.init runner) p).2,
              log ++ [⟨.init runner, (Provider.call (.init runner) p).1⟩]⟩) := rfl
        rw [hcall]
        cases houtcome : (Provider.call (.init runner) p).1 with
        | ok config => exact .readied runner config _ hlife
        | error e => exact .failed runner e _ hlife
    | _ => cases hinit
  · have hafter : ∀ outcome : Outcome c.Reply,
        lifecycleAfter lifecycle c outcome = lifecycle := by
      intro outcome
      cases c with
      | init => exact absurd rfl hinit
      | _ => rfl
    rw [hafter]
    refine .asked ⟨c, (Provider.call c p).1⟩ (Provider.call c p).2 hinit ?_ ?_
    · rintro rfl
      exact eq_initSchema_of_gate h hinit
    · rintro reason rfl
      rw [gate_failed] at h
      cases h

/-- A line is a move. -/
theorem handleLine_moves (s : Server (Transcript π)) (conn : Connection) (line : String) :
    Moves s (s.handleLine conn line).2.1 := by
  rcases s.handleLine_server conn line with h | ⟨c, hgate, h⟩
  · rw [h]
    exact .unasked
  · rw [h]
    exact perform_moves hgate

end Server

/-- Moves keep a life a life. -/
theorem Moves.life {π : Type} {s s' : Server (Transcript π)} (h : Moves s s')
    (hlife : Life s.lifecycle s.provider.log) : Life s'.lifecycle s'.provider.log := by
  obtain ⟨⟨p, log⟩, lifecycle⟩ := s
  cases h with
  | unasked => exact hlife
  | asked a provider hinit hbefore hfailed =>
      cases lifecycle with
      | uninitialized =>
          intro b hb
          rcases List.mem_append.1 hb with hb | hb
          · exact hlife b hb
          · rw [List.mem_singleton.1 hb]
            exact hbefore rfl
      | ready config =>
          obtain ⟨before, runner, after, hlog, hschemas, hrest⟩ := hlife
          refine ⟨before, runner, after ++ [a], ?_, hschemas, fun b hb => ?_⟩
          · dsimp only at hlog ⊢
            rw [hlog, List.append_assoc, List.cons_append]
          · rcases List.mem_append.1 hb with hb | hb
            · exact hrest b hb
            · rw [List.mem_singleton.1 hb]
              exact hinit
      | failed reason => exact absurd rfl (hfailed reason)
  | readied runner config provider h =>
      dsimp only at h
      subst h
      exact ⟨log, runner, [], rfl, hlife, fun _ hb => absurd hb List.not_mem_nil⟩
  | failed runner e provider h =>
      dsimp only at h
      subst h
      exact ⟨log, runner, e, rfl, hlife, rfl⟩

-- ================================================================= runs

section Runs

variable {ι π : Type} [DecidableEq ι] [Provider π]

/-- A run keeps a life a life. -/
theorem Hub.run_keeps_life (lines : List (ι × String)) : ∀ h : Hub ι (Transcript π),
    Life h.server.lifecycle h.server.provider.log →
      Life (Hub.run lines h).2.server.lifecycle (Hub.run lines h).2.server.provider.log := by
  induction lines with
  | nil => exact fun _ hlife => hlife
  | cons l lines ih =>
      intro h hlife
      exact ih _ ((h.server.handleLine_moves _ l.2).life hlife)

/-- Whatever lines come in over whatever connections, the provider receives schema requests,
then `init` at most once, then nothing if it failed and otherwise anything but `init`; where
the server has it in its life is what came of that `init`, and the next line moves it only by
calling `init` for the first time. -/
theorem run_life (p : π) (lines : List (ι × String)) :
    Life (Hub.after p lines).server.lifecycle (Hub.after p lines).server.provider.log
      ∧ ∀ l : ι × String,
        Moves (Hub.after p lines).server ((Hub.after p lines).line l).2.server := by
  constructor
  · exact Hub.run_keeps_life lines _ fun _ ha => absurd ha List.not_mem_nil
  · intro l
    rw [Hub.server_line]
    exact Server.handleLine_moves ..

end Runs

end ProviderLink.Rpc
