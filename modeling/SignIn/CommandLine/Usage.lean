import SignIn.CommandLine.Arguments

/-!
# Help on the command line

What is printed for those who ask how the program is called.
-/

namespace SignIn

namespace CommandLine

def programName : String := "votecaster-login"

def programVersion : String := "0.1.0"

/-- What a command does. -/
def Verb.purpose : Verb → String
  | login => "Sign in with Farcaster by scanning or opening a one-time link"
  | token => "Sign in with a bearer token, or a URL carrying a `token` parameter"
  | status => "Check the stored session against the backend and show it"
  | logout => "Forget the stored session"

/-- Lines in two columns, the first as wide as its widest text. -/
def columns (rows : List (String × String)) : List String :=
  let width := (rows.map (·.1.length)).foldl max 0
  rows.map fun row =>
    "  " ++ row.1 ++ String.ofList (List.replicate (width - row.1.length) ' ')
      ++ "  " ++ row.2

def options (topic : Option Verb) : List (String × String) :=
  [("    --api-url <API_URL>", "Backend base URL (overrides APP_URL)")]
    ++ (if topic = some .login then
        [("    --timeout <TIMEOUT>",
          "Give up and close the prompt after this many seconds [default: 300]")]
      else
        [])
    ++ [("    --session-file <SESSION_FILE>",
        "Session file (overrides VOTECASTER_SESSION_FILE)"),
      ("    --poll-interval-ms <POLL_INTERVAL_MS>",
        "Sign-in polling interval in milliseconds (overrides POLL_INTERVAL_MS)"),
      ("-h, --help", "Print help")]
    ++ (if topic.isNone then [("-V, --version", "Print version")] else [])

def usage (topic : Option Verb) : String :=
  let lines :=
    match topic with
    | none =>
      ["Sign in to Votecaster from the terminal", "",
        "Usage: " ++ programName ++ " [OPTIONS] <COMMAND>", "", "Commands:"]
        ++ columns (Verb.all.map (fun verb => (verb.name, verb.purpose))
          ++ [("help", "Print this message or the help of the given subcommand(s)")])
    | some verb =>
      [verb.purpose, "",
        "Usage: " ++ programName ++ " " ++ verb.name ++ " [OPTIONS]"
          ++ (if verb = .token then " <TOKEN>" else "")]
        ++ (if verb = .token then ["", "Arguments:", "  <TOKEN>"] else [])
  "\n".intercalate (lines ++ ["", "Options:"] ++ columns (options topic)) ++ "\n"

end CommandLine

end SignIn
