/-
Runs of a provider: one call after the other, and what came of each. A
provider may be replaced by another where nobody who calls it can tell
the two apart; `run_of_stands` is the induction behind every such claim,
so that a replacement is argued call by call.

The replacement may be good only as long as the answers can be passed
on, so the argument for one call may use that its own answer can be.
-/
import ProviderLink.Provider

namespace ProviderLink

/-- A call and what came of it. -/
structure Answered where
  call : Call
  outcome : Outcome call.Reply

namespace Provider

variable {π ρ : Type} [Provider π] [Provider ρ]

/-- What a provider answers to one call after the other, and the provider afterwards. -/
def run : List Call → π → List Answered × π
  | [], p => ([], p)
  | c :: rest, p =>
    let (outcome, p) := Provider.call c p
    let (answers, p) := run rest p
    (⟨c, outcome⟩ :: answers, p)

theorem run_cons (c : Call) (rest : List Call) (p : π) :
    run (c :: rest) p
      = (⟨c, (Provider.call c p).1⟩ :: (run rest (Provider.call c p).2).1,
          (run rest (Provider.call c p).2).2) := rfl

/-- There is an answer for each call. -/
theorem map_call_run (calls : List Call) : ∀ p : π, (run calls p).1.map Answered.call = calls := by
  induction calls with
  | nil => exact fun _ => rfl
  | cons c calls ih => exact fun p => congrArg (List.cons c) (ih _)

/-- States of two providers that answer alike, as long as the calls and the answers are such as
can be passed on. -/
structure Stands (asked : Call → Prop) (passes : Answered → Prop) (R : π → ρ → Prop) : Prop where
  outcome : ∀ {p q}, R p q → ∀ c, asked c → passes ⟨c, (Provider.call c q).1⟩ →
    (Provider.call c p).1 = (Provider.call c q).1
  after : ∀ {p q}, R p q → ∀ c, asked c → passes ⟨c, (Provider.call c q).1⟩ →
    R (Provider.call c p).2 (Provider.call c q).2

/-- What stands for a provider call by call stands for it over whole runs. -/
theorem run_of_stands {asked : Call → Prop} {passes : Answered → Prop} {R : π → ρ → Prop}
    (h : Stands asked passes R) (calls : List Call) : ∀ {p : π} {q : ρ}, R p q →
      (∀ c ∈ calls, asked c) → (∀ a ∈ (run calls q).1, passes a) →
      (run calls p).1 = (run calls q).1 ∧ R (run calls p).2 (run calls q).2 := by
  induction calls with
  | nil => exact fun hR _ _ => ⟨rfl, hR⟩
  | cons c calls ih =>
      intro p q hR hcalls hpasses
      have hc : asked c := hcalls c (List.mem_cons_self ..)
      have ha : passes ⟨c, (Provider.call c q).1⟩ := hpasses _ (List.mem_cons_self ..)
      obtain ⟨hanswers, hafter⟩ := ih (h.after hR c hc ha)
        (fun c hc => hcalls c (List.mem_cons_of_mem _ hc))
        (fun a ha => hpasses a (List.mem_cons_of_mem _ ha))
      rw [run_cons, run_cons, h.outcome hR c hc ha, hanswers]
      exact ⟨rfl, hafter⟩

end Provider

-- ========================================================== transcripts

/-- A provider and the calls that reached it with what came of each, in order. -/
structure Transcript (π : Type) where
  provider : π
  log : List Answered

namespace Transcript

variable {π : Type} [Provider π]

/-- Keeping a transcript changes no answer. -/
instance : Provider (Transcript π) where
  call c t :=
    let (outcome, provider) := Provider.call c t.provider
    (outcome, ⟨provider, t.log ++ [⟨c, outcome⟩]⟩)

end Transcript

end ProviderLink
