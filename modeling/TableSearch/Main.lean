import TableSearch.CommandLine.Run
import TableSearch.Sql.Snapshot

/-!
# The program

Reads the files that a command line names, runs it, keeps the database and prints the outcome.
-/
namespace TableSearch.Program

open CommandLine

/-- The text of a file, if it can be read. -/
def text? (path : String) : IO (Option String) := do
  try
    return some (← IO.FS.readFile path)
  catch _ => return none

def directory (path : String) : String :=
  String.ofList ((path.toList.reverse.dropWhile (· != '/')).drop 1).reverse

def withDatabase (files : Files) (path : String) : IO Files := do
  match ← text? path with
  | none => return files
  | some text =>
    match Sql.Database.read? text with
    | some d => return files.keep path d
    | none => throw (IO.userError ("Failed to open database " ++ path))

def store (files : Files) (path : String) : IO Unit := do
  match files.databases.get? path with
  | none => return ()
  | some d =>
    unless (directory path).isEmpty do
      IO.FS.createDirAll (directory path)
    IO.FS.writeFile path d.write

def perform (invocation : Invocation) : IO Outcome := do
  match invocation with
  | .task config _ =>
    let files : Files :=
      match ← text? config with
      | some text => { texts := Dict.empty.insert config text }
      | none => {}
    match files.config config with
    | .error _ => return (invocation.run files).1
    | .ok c =>
      let (outcome, files) := invocation.run (← withDatabase files c.path)
      store files c.path
      return outcome
  | _ => return (invocation.run {}).1

end TableSearch.Program

/-- Run the program with arguments; the result is the code of the outcome. -/
def main (arguments : List String) : IO UInt32 := do
  try
    let outcome ← TableSearch.Program.perform (.ofArguments arguments)
    IO.print outcome.output
    if outcome.code == 2 then
      IO.eprintln ("error: the arguments are not understood\n\n" ++
        TableSearch.CommandLine.programHelp)
    if let some e := outcome.error then
      IO.eprintln ("Error: " ++ e)
    return UInt32.ofNat outcome.code
  catch e =>
    IO.eprintln ("Error: " ++ toString e)
    return 1
