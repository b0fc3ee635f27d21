import SignIn.Text.Numeral

/-!
# Arguments of the command line

A command line gives settings, then a command, and then settings and operands of that
command.  A setting is written `--name value` or `--name=value`, at most once before
the command and at most once after it.  Arguments are read from left to right, and the
first one that asks for help, asks for the version or has no place decides.
-/

namespace SignIn

namespace CommandLine

/-- The commands by name. -/
inductive Verb where
  | login
  | token
  | status
  | logout
  deriving DecidableEq, Repr

namespace Verb

def all : List Verb := [login, token, status, logout]

def name : Verb → String
  | login => "login"
  | token => "token"
  | status => "status"
  | logout => "logout"

def ofName? (text : String) : Option Verb :=
  all.find? (·.name == text)

end Verb

/-- What the user wants done. -/
inductive Command where
  /-- Signing in through a ticket, within a number of seconds. -/
  | login (timeout : UInt64)
  | token (token : String)
  | status
  | logout
  deriving DecidableEq, Repr

/-- A command and the settings given with it. -/
structure Invocation where
  apiUrl : Option String := none
  sessionFile : Option String := none
  /-- In milliseconds. -/
  pollInterval : Option UInt64 := none
  command : Command
  deriving DecidableEq, Repr

/-- Why arguments lead to no command being carried out. -/
inductive Detour where
  | help (topic : Option Verb)
  | version
  | misuse
  deriving DecidableEq, Repr

/-- The settings, each of which takes a value. -/
inductive Setting where
  | apiUrl
  | sessionFile
  | pollInterval
  | timeout
  deriving DecidableEq, Repr

namespace Setting

def ofName? (verb : Option Verb) : String → Option Setting
  | "api-url" => some apiUrl
  | "session-file" => some sessionFile
  | "poll-interval-ms" => some pollInterval
  | "timeout" => if verb = some .login then some timeout else none
  | _ => none

end Setting

/-- The values that have been given on one side of the command. -/
structure Given where
  apiUrl : Option String := none
  sessionFile : Option String := none
  pollInterval : Option UInt64 := none
  timeout : Option UInt64 := none
  token : Option String := none
  deriving DecidableEq, Repr

namespace Given

/-- Takes a value that may be given once and must be good. -/
def once {α : Type} (present value : Option α) : Except Detour (Option α) :=
  if present.isSome || value.isNone then .error .misuse else .ok value

/-- Gives a setting a value.  A file needs a name, and numbers must be such. -/
def give (given : Given) (setting : Setting) (text : String) : Except Detour Given :=
  match setting with
  | .apiUrl => (once given.apiUrl (some text)).map fun apiUrl => { given with apiUrl }
  | .sessionFile =>
    (once given.sessionFile (if text = "" then none else some text)).map
      fun sessionFile => { given with sessionFile }
  | .pollInterval =>
    (once given.pollInterval (Numeral.word64? text)).map
      fun pollInterval => { given with pollInterval }
  | .timeout =>
    (once given.timeout (Numeral.word64? text)).map fun timeout => { given with timeout }

/-- The time that is waited for a sign-in when none is given, in seconds. -/
def defaultTimeout : UInt64 := 300

/-- The invocation of a command with what is given before it and after it.  A setting
after the command goes before the same setting ahead of it. -/
def invocation (before : Given) (verb : Verb) (after : Given) :
    Except Detour Invocation :=
  let command : Except Detour Command :=
    match verb with
    | .login => .ok (.login (after.timeout.getD defaultTimeout))
    | .token =>
      match after.token with
      | some token => .ok (.token token)
      | none => .error .misuse
    | .status => .ok .status
    | .logout => .ok .logout
  command.map fun command =>
    { apiUrl := after.apiUrl.or before.apiUrl
      sessionFile := after.sessionFile.or before.sessionFile
      pollInterval := after.pollInterval.or before.pollInterval
      command }

end Given

/-- An argument by its form. -/
inductive Word where
  /-- Two dashes alone, after which everything is an operand. -/
  | separator
  | long (name : String) (value : Option String)
  | short (first : Char)
  | plain
  deriving DecidableEq, Repr

/-- The form of an argument. -/
def Word.ofText (text : String) : Word :=
  match text.toList with
  | ['-', '-'] => separator
  | '-' :: '-' :: rest =>
    long (String.ofList (rest.takeWhile (· != '=')))
      (if rest.contains '=' then
        some (String.ofList ((rest.dropWhile (· != '=')).drop 1))
      else
        none)
  | '-' :: first :: _ => short first
  | _ => plain

/-- How far the arguments on one side of the command have been read. -/
structure Line where
  given : Given := {}
  /-- The last setting, until its value is entered. -/
  pending : Option (Setting × Option String) := none
  /-- Whether only operands follow. -/
  operands : Bool := false
  deriving DecidableEq, Repr

namespace Line

/-- Whether the next plain argument is the value of a setting. -/
def awaitsValue (line : Line) : Bool :=
  match line.pending with
  | some (_, none) => true
  | _ => false

/-- Enters the value of the last setting, which must have one. -/
def close (line : Line) : Except Detour Given :=
  match line.pending with
  | none => .ok line.given
  | some (_, none) => .error .misuse
  | some (setting, some text) => line.given.give setting text

/-- Leaves the line, once what it has given is found good. -/
def leave (line : Line) (detour : Detour) : Except Detour Line := do
  discard line.close
  .error detour

/-- Takes an operand: only the command `token` has one. -/
def takeOperand (line : Line) (verb : Option Verb) (text : String) :
    Except Detour Line := do
  let given ← line.close
  if verb = some .token && given.token.isNone then
    .ok { line with given := { given with token := some text }, pending := none }
  else
    .error .misuse

/-- Takes a setting, and its value if it is attached. -/
def takeSetting (line : Line) (setting : Setting) (value : Option String) :
    Except Detour Line := do
  let given ← line.close
  match value with
  | none => .ok { line with given, pending := some (setting, none) }
  | some text =>
    let given ← given.give setting text
    .ok { line with given, pending := none }

/-- Takes an argument that does not name a command. -/
def take (line : Line) (verb : Option Verb) (text : String) : Except Detour Line :=
  if line.operands then line.takeOperand verb text
  else
    match Word.ofText text with
    | .separator => .ok { line with operands := true }
    | .long "help" none => line.leave (.help verb)
    | .long "version" none =>
      if verb.isNone then line.leave .version else .error .misuse
    | .long name value =>
      match Setting.ofName? verb name with
      | some setting => line.takeSetting setting value
      | none => .error .misuse
    | .short first =>
      if first = 'h' then line.leave (.help verb)
      else if first = 'V' && verb.isNone then line.leave .version
      else .error .misuse
    | .plain =>
      match line.pending with
      | some (setting, none) =>
        .ok { line with pending := some (setting, some text) }
      | _ => line.takeOperand verb text

end Line

/-- Reads the arguments that follow a command. -/
def readAfter (verb : Verb) (line : Line) : List String → Except Detour Given
  | [] => line.close
  | text :: rest => do
    let line ← line.take (some verb) text
    readAfter verb line rest

/-- Reads what help is wanted on: on everything, on one command, or on help itself. -/
def readTopic : List String → Detour
  | [] => .help none
  | [text] =>
    match Verb.ofName? text with
    | some verb => .help (some verb)
    | none => if text = "help" then .help none else .misuse
  | _ => .misuse

/-- Reads the arguments from the start.  The last setting before a command has its
value checked only after what follows the command. -/
def readFrom (line : Line) : List String → Except Detour Invocation
  | [] => .error .misuse
  | text :: rest =>
    if line.operands || line.awaitsValue then do
      let line ← line.take none text
      readFrom line rest
    else
      match Verb.ofName? text with
      | some verb => do
        let after ← readAfter verb {} rest
        let before ← line.close
        before.invocation verb after
      | none =>
        if text = "help" then .error (readTopic rest)
        else do
          let line ← line.take none text
          readFrom line rest

def read (arguments : List String) : Except Detour Invocation :=
  readFrom {} arguments

end CommandLine

end SignIn
