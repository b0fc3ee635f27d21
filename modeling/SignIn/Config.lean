import SignIn.Client
import SignIn.Storage.FileTree
import SignIn.Text.Numeral

/-!
# Settings

Where the server is, where the session is kept, and how long to wait between two
questions about a ticket.  Settings come from the environment and have defaults.
-/

namespace SignIn

structure Config where
  appUrl : String
  sessionFile : String
  /-- In milliseconds. -/
  pollInterval : UInt64
  deriving DecidableEq, Repr

/-- The variables of the environment that settings come from.  What is not text counts
as absent, except for directories, which are taken as they are. -/
structure Environment where
  appUrl : Option String := none
  sessionFile : Option String := none
  pollInterval : Option String := none
  home : Option String := none
  dataHome : Option String := none
  deriving DecidableEq, Repr

namespace Config

def defaultAppUrl : String := "http://localhost:8080"

def defaultPollInterval : UInt64 := 2000

/-- Settings with the address of the server in normal form. -/
def of (appUrl sessionFile : String) (pollInterval : UInt64) : Config :=
  { appUrl := Client.normalize appUrl, sessionFile, pollInterval }

/-- The directory for the data of programs: the one named for that, if its path starts
at the root, or else a customary one in the home directory. -/
def dataDirectory? (environment : Environment) : Option String :=
  match environment.dataHome.filter (·.toList.head? = some '/') with
  | some directory => some directory
  | none => environment.home.map fun home => Path.join home ".local/share"

/-- Where the session is kept when no file is named. -/
def defaultSessionFile (environment : Environment) : String :=
  Path.join
    (match dataDirectory? environment with
      | some directory => Path.join directory "votecaster"
      | none => ".")
    "session.json"

def ofEnvironment (environment : Environment) : Config :=
  of (environment.appUrl.getD defaultAppUrl)
    (environment.sessionFile.getD (defaultSessionFile environment))
    ((environment.pollInterval.bind Numeral.word64?).getD defaultPollInterval)

end Config

end SignIn
