import TableSearch.CommandLine.Invocation
import TableSearch.Config.Reader
import TableSearch.Sql.Migration

/-!
# Running a command line

A run reads the configuration file, works on the database that it names, and ends with a code, the
printed text and perhaps an error: code 2 if the command line fits no form, 1 after an error, else
0. A database that is not there is created; those that have no file are gone after the run.
-/
namespace TableSearch.CommandLine

/-- How a run ends. -/
structure Outcome where
  code : Nat
  output : String := ""
  error : Option String := none
  deriving DecidableEq, Repr, Inhabited

namespace Outcome

def misuse : Outcome := { code := 2 }

def printed (output : String) : Outcome := { code := 0, output }

/-- The end of a run with an error after a printed text; of the error's texts the most general is
shown. -/
def failed (output : String) (texts : List String) : Outcome :=
  { code := 1, output, error := texts.head? }

end Outcome

/-- The texts and databases in reach of a run, by path. -/
structure Files where
  texts : Dict String String := .empty
  databases : Dict String Sql.Database := .empty
  deriving DecidableEq, Inhabited

namespace Files

def config (f : Files) (path : String) : Except ConfigError Config :=
  match f.texts.get? path with
  | none => .error (.unreadable path)
  | some text => Config.read text

/-- Whether a database of a path has no file. -/
def isTransient (path : String) : Bool := path.isEmpty || path == ":memory:"

/-- The database of a path; a new one is empty. -/
def database (f : Files) (path : String) : Sql.Database := (f.databases.get? path).getD {}

def keep (f : Files) (path : String) (d : Sql.Database) : Files :=
  if isTransient path then f else { f with databases := f.databases.insert path d }

end Files

/-- What is wrong with an address to listen on, as far as its form shows. -/
def addressError? (address : String) : Option String :=
  let port := (address.toList.reverse.takeWhile (· != ':')).reverse
  if port.length = address.length then some "invalid socket address"
  else
    match Text.readInteger? port with
    | some n => if 0 ≤ n ∧ n < 0x10000 then none else some "invalid port value"
    | none => some "invalid port value"

/-- Serving, which ends at once: requests come from outside of a run. -/
def serve (address : String) : Outcome :=
  .failed ("Search Regex listening on http://" ++ address ++ "\n")
    [(addressError? address).getD ("cannot listen on " ++ address)]

def runCommand (c : Config) (command : Command) (d : Sql.Database) : Outcome × Sql.Database :=
  match Engine.ofConfig c with
  | .error e => (.failed "" [e.message], d)
  | .ok engine =>
    match (command.run engine).attempt { store := d } with
    | (.ok lines, s) => (.printed (Report.lines lines), s.store)
    | (.error e, s) => (.failed "" e.texts, s.store)

def Task.perform (c : Config) : Task → Sql.Database → Outcome × Sql.Database
  | init, d => (.printed "Database initialized successfully.\n", d.migrate c)
  | serve, d => (CommandLine.serve c.bind, d)
  | command x, d => runCommand c x d

def Invocation.run (files : Files) : Invocation → Outcome × Files
  | misuse => (.misuse, files)
  | text s => (.printed s, files)
  | task path t =>
    match files.config path with
    | .error e => (.failed "" e.texts, files)
    | .ok c =>
      let (outcome, d) := t.perform c (files.database c.path)
      (outcome, files.keep c.path d)

def run (files : Files) (arguments : List String) : Outcome × Files :=
  (Invocation.ofArguments arguments).run files

end TableSearch.CommandLine
