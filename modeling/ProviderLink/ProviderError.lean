/-
The failures of a provider call. Those up to `failed` concern the one
call and go back to its caller; `unavailable` means that the provider
can no longer be called, and `transport` that the call could not be
carried out at all. Each carries its own wording, since a failure
crosses from one process to another as text.
-/
namespace ProviderLink

/-- Why a provider call failed. -/
inductive ProviderError
  | invalidTypeRepresentation (detail : String)
  | schemaMismatch (detail : String)
  | invalidSchema (detail : String)
  | unknownAction (name : String)
  | unknownTrigger (key : String)
  | unknownSubscription (contextId subscriptionId : String)
  /-- A failure of the provider's own logic. -/
  | failed (detail : String)
  | unavailable (detail : String)
  | transport (detail : String)
  deriving DecidableEq, Repr

namespace ProviderError

/-- The message of a failure. -/
def message : ProviderError → String
  | invalidTypeRepresentation detail => "invalid type representation: " ++ detail
  | schemaMismatch detail => "schema mismatch: " ++ detail
  | invalidSchema detail => "invalid schema: " ++ detail
  | unknownAction name => "unknown action: " ++ name
  | unknownTrigger key => "unknown trigger key: " ++ key
  | unknownSubscription contextId subscriptionId =>
    "unknown subscription " ++ subscriptionId ++ " in context " ++ contextId
  | failed detail => "provider failure: " ++ detail
  | unavailable detail => "provider unavailable: " ++ detail
  | transport detail => "transport error: " ++ detail

/-- Whether the provider cannot be reached or used. -/
def isUnreachable : ProviderError → Bool
  | unavailable _ | transport _ => true
  | _ => false

end ProviderError

/-- What a provider call gives back. -/
abbrev Outcome (α : Type) := Except ProviderError α

end ProviderLink
