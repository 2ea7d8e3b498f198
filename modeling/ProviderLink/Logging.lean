/-
Where the programs of a runner and its providers keep their logs. Each
program is a component with a series of files of its own, one a day, in a
directory that they share.
-/
namespace ProviderLink.Logging

/-- The program as a whole. -/
def program : String := "switchboard"

/-- How many files of a component are kept. -/
def defaultRetained : Nat := 7

/-- Where and how a component writes its logs. -/
structure Settings where
  component : String
  directory : String
  /-- How many files are kept. -/
  retained : Nat
  deriving DecidableEq, Repr

-- ========================================================== file names

/-- Whether a character may stand in a file name. -/
def isNameChar (c : Char) : Bool := c.isAlphanum || c == '-' || c == '_'

/-- A component with an underscore for each character that does not belong in a file name. -/
def fileSafe (component : String) : String :=
  component.map fun c => if isNameChar c then c else '_'

/-- How the names of a component's files begin. -/
def Settings.filePrefix (s : Settings) : String :=
  if s.component.isEmpty then program else program ++ "-" ++ fileSafe s.component

/-- The name of the file of a day. -/
def Settings.fileName (s : Settings) (date : String) : String := s.filePrefix ++ "." ++ date ++ ".log"

-- ============================================================ directory

/-- A path below another. -/
def below (base part : String) : String :=
  if base.isEmpty || base.endsWith "/" then base ++ part else base ++ "/" ++ part

/-- A path that does not depend on where the program runs. -/
def absolute? (path : String) : Option String := if path.startsWith "/" then some path else none

/-- The home directory: that of the environment, or else that of the account. -/
def home? (environment : String → Option String) (account : Option String) : Option String :=
  ((environment "HOME").filter (!·.isEmpty)).or account

/-- Where programs keep their state: in the directory for that, or else with their data, or else
among temporary files. -/
def stateBase (environment : String → Option String) (account : Option String) : String :=
  let home := home? environment account
  let state := ((environment "XDG_STATE_HOME").bind absolute?).or
    (home.map fun h => below h ".local/state")
  let data := ((environment "XDG_DATA_HOME").bind absolute?).or
    (home.map fun h => below h ".local/share")
  (state.or data).getD "/tmp"

/-- The directory of the logs, as an environment and an account have it. -/
def directory (environment : String → Option String) (account : Option String) : String :=
  match environment "SWITCHBOARD_LOG_DIR" with
  | some dir => dir
  | none => below (below (stateBase environment account) program) "logs"

/-- The settings of a component that writes to a directory. -/
def Settings.new (component directory : String) : Settings :=
  ⟨component, directory, defaultRetained⟩

-- ============================================================= opening

/-- Why there is no log file. -/
inductive Fault
  | noDirectory (directory : String)
  | noFile (directory : String)
  deriving DecidableEq, Repr

def Fault.message : Fault → String
  | noDirectory directory => "failed to create log directory " ++ directory
  | noFile directory => "failed to open log file in " ++ directory

/-- How many bytes a file name may have. -/
def maxNameBytes : Nat := 255

/-- The name of the file that is opened on a day, given whether the directory can be made. -/
def Settings.openFile (s : Settings) (directoryUsable : Bool) (date : String) :
    Except Fault String :=
  if !directoryUsable then .error (.noDirectory s.directory)
  else if maxNameBytes < (s.fileName date).utf8ByteSize then .error (.noFile s.directory)
  else .ok (s.fileName date)

end ProviderLink.Logging
