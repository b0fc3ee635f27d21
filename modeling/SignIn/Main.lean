import SignIn.CommandLine.Run

/-!
# The program

Takes arguments, the environment and the session file from the outside, runs, prints,
and puts the session file back.  There is no way to a server from here: every request
ends as one that no server answers.
-/

namespace SignIn

namespace Program

def environment : IO Environment := do
  return {
    appUrl := ← IO.getEnv "APP_URL"
    sessionFile := ← IO.getEnv "VOTECASTER_SESSION_FILE"
    pollInterval := ← IO.getEnv "POLL_INTERVAL_MS"
    home := ← IO.getEnv "HOME"
    dataHome := ← IO.getEnv "XDG_DATA_HOME" }

/-- The content of a file, if it can be read. -/
def content? (file : String) : IO (Option Octets) := do
  try
    let bytes ← IO.FS.readBinFile file
    return some bytes.toList
  catch _ =>
    return none

/-- Puts a file in place: it is written beside the place first. -/
def replace (file : String) (content : Octets) : IO Unit := do
  IO.FS.createDirAll (Path.ofText file).aboveText
  let beside := file ++ ".new"
  IO.FS.writeBinFile beside ⟨content.toArray⟩
  IO.FS.rename beside file

def complain (errors : List String) : IO Unit := do
  IO.eprintln "Error:"
  for (text, number) in errors.zipIdx do
    IO.eprintln ("   " ++ Json.printNatural number ++ ": " ++ text)

end Program

end SignIn

open SignIn in
def main (arguments : List String) : IO UInt32 := do
  let environment ← Program.environment
  let file := CommandLine.sessionFile? environment arguments
  let before ← file.bindM Program.content?
  let tree :=
    match file, before with
    | some file, some content => FileTree.holding (.ofText file) content
    | _, _ => {}
  let report :=
    CommandLine.Surroundings.run
      { environment, tree, server := .script [], reachable := false
        freshId := fun number => Json.printNatural number }
      arguments
  if let some file := file then
    if let .ok after := report.tree.read (.ofText file) then
      if some after != before then
        Program.replace file after
  IO.print report.printed
  unless report.errors.isEmpty do
    Program.complain report.errors
  if report.code = 2 then
    IO.eprint (CommandLine.usage none)
  return report.code.toUInt32
