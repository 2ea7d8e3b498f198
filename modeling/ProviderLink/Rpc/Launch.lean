/-
A provider as a process of its own. It serves one connection over its
standard streams, but only if the runner's cookie is in its environment;
without it nothing is read and no log is opened. A log that cannot be
opened keeps nothing from being served.
-/
import ProviderLink.Logging
import ProviderLink.Rpc.Serving

namespace ProviderLink.Rpc

/-- Why a provider process ends in failure. -/
inductive LaunchFault
  | notLaunched
  | serving (fault : ServeFault)
  deriving DecidableEq, Repr

def LaunchFault.message : LaunchFault → String
  | notLaunched => notLaunchedMessage
  | serving fault => fault.message

/-- What a provider process leaves behind. -/
structure Launched where
  result : Except LaunchFault Unit
  /-- What it wrote. -/
  output : List UInt8
  logFiles : List String

/-- Runs a provider process: `log` is what comes of opening its log. -/
def launch {π : Type} [Provider π] (environment : String → Option String)
    (log : Except Logging.Fault String) (provider : π) (input : List UInt8) : Launched :=
  if !hasCookie environment then ⟨.error .notLaunched, [], []⟩
  else
    let served := serve (.new provider) none input
    ⟨served.result.mapError .serving, served.output.written, log.toOption.toList⟩

end ProviderLink.Rpc
