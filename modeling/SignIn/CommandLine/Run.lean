import SignIn.CommandLine.Usage
import SignIn.Config
import SignIn.Stage.Play

/-!
# Running a command

A command works on the session of a file and talks to the server of the settings.  It
prints lines as it goes along, and it ends well or with an error.
-/

namespace SignIn

namespace CommandLine

/-- What a command has printed, and the texts of the error it ends with and of the
errors behind that one; none if it ends well. -/
structure Ending where
  printed : List String := []
  errors : List String := []
  deriving DecidableEq, Repr

def describe (session : SignedIn) : List String :=
  let profile := session.profile
  let points := session.reputation.data.points
  ["Signed in as " ++ profile.displayName ++ " (@" ++ profile.username ++ ", fid "
      ++ Json.printNatural profile.fid.toNat ++ ")",
    "Reputation " ++ Json.printNatural session.reputation.reputation.toNat ++ " · "
      ++ Json.printNatural points.totalPoints.toNat ++ " points ("
      ++ Json.printNatural points.ownerPoints.toNat ++ " as owner, "
      ++ Json.printNatural points.voterPoints.toNat ++ " as voter)"]

def session (stage : Stage) : Session :=
  (stage.controller stage.current).session

def description (stage : Stage) : List String :=
  match session stage with
  | .anonymous => []
  | .authenticated session => describe session

def status (stage : Stage) : Stage × Ending :=
  match stage.validate with
  | (stage, .noSession) => (stage, { printed := ["Not signed in."] })
  | (stage, .invalidated) =>
    (stage, { printed := ["Stored session expired; sign in again."] })
  | (stage, .valid) => (stage, { printed := description stage })

def logout (stage : Stage) : Stage × Ending :=
  (stage.change stage.current Controller.logout, { printed := ["Signed out."] })

/-- Signs in with a token, or with a link if the text looks like one. -/
def token (stage : Stage) (input : String) : Stage × Ending :=
  if input.toList.any fun character => character = '?' || character = '=' then
    match stage.tokenLoginFromLink input with
    | (stage, .error error) => (stage, { errors := error.chain })
    | (stage, .ok true) => (stage, { printed := description stage })
    | (stage, .ok false) =>
      (stage,
        if (session stage).isAuthenticated then
          { printed :=
              ["Already signed in; run `logout` first to switch accounts."] }
        else
          { errors := ["no token parameter found in " ++ input] })
  else
    match stage.tokenLogin input with
    | (stage, .error error) => (stage, { errors := error.chain })
    | (stage, .ok ()) => (stage, { printed := description stage })

/-- How often a poller asks before a number of seconds is over, with a pause in
milliseconds before each question, if that is less often than could make a
difference. -/
def questions (interval timeout patience : Nat) : Nat :=
  if timeout = 0 then 0
  else if interval = 0 then patience
  else min patience ((timeout * 1000 - 1) / interval)

/-- Waits for a poller until the time is up; from then on it no longer runs. -/
def waitWithin (stage : Stage) (runner : Runner) (timeout : UInt64) :
    Stage × Option PollResult :=
  let turns := questions runner.poller.interval timeout.toNat stage.patience
  let stage :=
    Stage.waitUntil (fun _ => true) (Stage.isIdle .awaited) turns
      { stage with awaited := some runner }
  ({ stage with awaited := none }, stage.awaitedResult?)

/-- The lines that invite to sign in. -/
def invitation (ticket : Ticket) : List String :=
  ["Sign in with Farcaster",
    "Scan with your phone's camera or open this link to continue:",
    "",
    "  " ++ ticket.url,
    "",
    "Waiting for confirmation..."]

/-- The text of the error that stands for an attempt to sign in without a result. -/
def notCompleted : String := "sign-in was not completed"

/-- Waits until the ticket of the open prompt is redeemed, closes the prompt, and shows
who has signed in. -/
def finishLogin (stage : Stage) (timeout : UInt64) : Stage × Ending :=
  let runner := stage.runner? .prompt
  let stage := { stage with prompt := none }
  match runner with
  | none => (stage, { errors := [notCompleted] })
  | some runner =>
    match waitWithin stage runner timeout with
    | (stage, some (.loggedIn _)) => (stage, { printed := description stage })
    | (stage, some (.failed error)) => (stage, { errors := error.chain })
    | (stage, some .superseded) => (stage, { printed := ["Signed in."] })
    | (stage, some .cancelled) => (stage, { errors := [notCompleted] })
    | (stage, none) =>
      (stage,
        { printed := ["Timed out waiting for sign-in."], errors := [notCompleted] })

def prompt (stage : Stage) (interval timeout : UInt64) : Stage × Ending :=
  match stage.promptStart { interval := interval.toNat } stage.current with
  | (stage, .error error) => (stage, { errors := error.chain })
  | (stage, .ok ticket) =>
    let (stage, ending) := finishLogin stage timeout
    (stage, { ending with printed := invitation ticket ++ ending.printed })

/-- Signs in through a ticket, unless someone is signed in whom the server knows. -/
def login (stage : Stage) (interval timeout : UInt64) : Stage × Ending :=
  let (stage, validation) := stage.validate
  match validation, session stage with
  | .valid, .authenticated session =>
    (stage,
      { printed := ["Already signed in as @" ++ session.profile.username ++ "."] })
  | _, _ => prompt stage interval timeout

/-- The settings of an invocation; those of the environment stand in for the ones that
it does not give. -/
def Invocation.config (invocation : Invocation) (environment : Environment) : Config :=
  let settings := Config.ofEnvironment environment
  .of (invocation.apiUrl.getD settings.appUrl)
    (invocation.sessionFile.getD settings.sessionFile)
    (invocation.pollInterval.getD settings.pollInterval)

/-- The file of the session that arguments are about, if they name a command. -/
def sessionFile? (environment : Environment) (arguments : List String) :
    Option String :=
  (read arguments).toOption.map fun invocation =>
    (invocation.config environment).sessionFile

def Command.run (command : Command) (stage : Stage) (interval : UInt64) :
    Stage × Ending :=
  match command with
  | login timeout => CommandLine.login stage interval timeout
  | token input => CommandLine.token stage input
  | status => CommandLine.status stage
  | logout => CommandLine.logout stage

/-- What is left when the program has ended. -/
structure Report where
  code : UInt8
  printed : String := ""
  errors : List String := []
  /-- The files as they are then. -/
  tree : FileTree
  /-- The requests that have arrived at the server. -/
  arrivals : List Stage.Arrival := []
  deriving Repr

/-- The surroundings of the program: the environment, the files, and the server with
the way to it. -/
structure Surroundings where
  environment : Environment
  tree : FileTree
  server : Stage.Server
  reachable : Bool
  freshId : Nat → String

namespace Surroundings

/-- The stage on which a command of some settings is carried out. -/
def stage (surroundings : Surroundings) (config : Config) : Stage :=
  .start (.ofBase config.appUrl)
    (.file config.sessionFile surroundings.tree)
    surroundings.server surroundings.reachable surroundings.freshId

def idle (surroundings : Surroundings) (code : UInt8) (printed : String) : Report :=
  { code, printed, tree := surroundings.tree }

/-- Runs the program.  An error of a command is told apart from arguments that ask for
none. -/
def run (surroundings : Surroundings) (arguments : List String) : Report :=
  match read arguments with
  | .error (.help topic) => surroundings.idle 0 (usage topic)
  | .error .version =>
    surroundings.idle 0 (programName ++ " " ++ programVersion ++ "\n")
  | .error .misuse => surroundings.idle 2 ""
  | .ok invocation =>
    let config := invocation.config surroundings.environment
    let (stage, ending) :=
      invocation.command.run (surroundings.stage config) config.pollInterval
    { code := if ending.errors.isEmpty then 0 else 1
      printed := String.join (ending.printed.map (· ++ "\n"))
      errors := ending.errors
      tree := stage.store.tree
      arrivals := stage.arrivals }

end Surroundings

end CommandLine

end SignIn
