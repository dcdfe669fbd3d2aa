import TableSearch.CommandLine.Help

/-!
# Invocations

The forms of the program's commands, and what a command line asks for: a task with a configuration,
a text about the program itself, or nothing that the forms allow.
-/
namespace TableSearch.CommandLine

/-- What the program is told to do with a configuration. -/
inductive Task where
  | init
  | serve
  | command (c : Command)
  deriving DecidableEq, Repr, Inhabited

/-- What a command line asks for. -/
inductive Invocation where
  | misuse
  | text (s : String)
  | task (config : String) (task : Task)
  deriving DecidableEq, Repr, Inhabited

/-- The setting that names the configuration file; every form has it. -/
def configSetting : Setting where
  name := "config"
  value := some ⟨"CONFIG", .path, some "./config/search-regex.toml"⟩
  help := "Path to configuration file (TOML)"

/-- The form of the program, in front of a command. -/
def programForm : Form where
  name := "search-regex"
  summary := "Regular-expression search, filter and replace across database tables"
  settings := [configSetting]
  version := some "search-regex 0.3.0\n"

def sourceParameter : Parameter := { value := ⟨"SOURCE", .text, none⟩ }

def rowParameter : Parameter := { value := ⟨"ID", .integer, none⟩ }

def textParameter (placeholder : String) : Parameter := { value := ⟨placeholder, .text, none⟩ }

def commandForm (name summary : String) (parameters : List Parameter)
    (settings : List Setting) : Form :=
  { name, summary, parameters, settings := configSetting :: settings }

def regexSwitch (help : String) : Setting := { name := "regex", help }

def ignoreCaseSwitch : Setting := { name := "ignore-case" }

/-- The switch that closes the gate. -/
def dryRunSwitch (help : String) : Setting := { name := "dry-run", help }

def commandForms : List Form := [
  { commandForm "init" "Initialize the database" [] [] with
    details := some <| "Initialize the database.\n\n" ++
      "Creates the SQLite file and, when `[plugins.redirection]` is configured, the redirection " ++
      "tables. Safe to run repeatedly." },
  commandForm "sources" "List registered sources" [] [],
  commandForm "schema" "Show the schema of a source" [sourceParameter] [],
  commandForm "search" "Search one or more sources (all of them when none are named)"
    [{ value := ⟨"SOURCES", .text, none⟩, many := true }] [
    { name := "phrase", value := some ⟨"PHRASE", .text, none⟩
      help := "Text matched against every global column" },
    regexSwitch "Treat the phrase as a regular expression",
    ignoreCaseSwitch,
    { name := "filter", value := some ⟨"FILTERS", .text, none⟩, repeatable := true
      help := "Filter as JSON, e.g. `\x7b\"column\":\"status\",\"logic\":\"equals\"," ++
        "\"values\":[\"enabled\"]\x7d`. Repeatable; all filters must hold" },
    { name := "limit", value := some ⟨"LIMIT", .integer, none⟩
      help := "Defaults to `[search].page_size`" },
    { name := "offset", value := some ⟨"OFFSET", .integer, some "0"⟩ }],
  commandForm "get" "Show one row" [sourceParameter, rowParameter] [],
  commandForm "autocomplete" "Suggest values for a column"
    [sourceParameter, textParameter "COLUMN", textParameter "VALUE"] [],
  commandForm "preload" "Resolve the keys of a membership filter to labels" [sourceParameter] [
    { name := "filter", value := some ⟨"FILTER", .text, none⟩, required := true }],
  commandForm "save" "Change columns of a row" [sourceParameter, rowParameter] [
    { name := "set", value := some ⟨"SET", .assignment, none⟩, repeatable := true
      required := true, help := "Column change as `column=value`. Repeatable" },
    dryRunSwitch "Audit the change without writing it"],
  commandForm "delete" "Delete a row" [sourceParameter, rowParameter] [dryRunSwitch ""],
  commandForm "replace" "Replace a phrase in the global columns of a row"
    [sourceParameter, rowParameter, textParameter "PHRASE", textParameter "REPLACEMENT"]
    [regexSwitch "", ignoreCaseSwitch, dryRunSwitch ""],
  commandForm "serve" "Start the HTTP server on `[server].bind`" [] []]

def helpEntry : HelpEntry where
  label := "help"
  text := "Print this message or the help of the given subcommand(s)"

def helpOfHelp : String :=
  "\n\n".intercalate ([helpEntry.text, "Usage: search-regex help [COMMAND]..."] ++
    HelpEntry.list "Arguments" false [⟨"[COMMAND]...", "Print help for the subcommand(s)", ""⟩]) ++ "\n"

def programHelp : String :=
  programForm.help [programForm.name]
    (commandForms.map (fun f => { label := f.name, text := f.summary }) ++ [helpEntry]) true

def commandHelp (f : Form) (long : Bool) : String := f.help [programForm.name, f.name] [] long

def commandForm? (name : String) : Option Form := commandForms.find? (·.name == name)

def helpOn : List String → Invocation
  | [] => .text programHelp
  | ["help"] => .text helpOfHelp
  | [name] =>
    match commandForm? name with
    | some f => .text (commandHelp f true)
    | none => .misuse
  | _ => .misuse

namespace Given

def phrase (g : Given) (pattern : String) : PhraseArguments :=
  ⟨pattern, g.has "regex", g.has "ignore-case"⟩

def number? (g : Given) (name : String) : Option Int64 := (g.value? name).bind Text.readInt64?

def task? (g : Given) (command : String) : Option Task := do
  let dryRun := g.has "dry-run"
  match command, g.places with
  | "init", [] => return .init
  | "serve", [] => return .serve
  | "sources", [] => return .command .sources
  | "schema", [source] => return .command (.schema source)
  | "search", sources =>
    return .command (.search sources ((g.value? "phrase").map g.phrase) (g.values "filter")
      (g.number? "limit") ((g.number? "offset").getD 0))
  | "get", [source, id] => return .command (.get source (← Text.readInt64? id))
  | "autocomplete", [source, column, partialText] =>
    return .command (.suggest source column partialText)
  | "preload", [source] => return .command (.preload source (← g.value? "filter"))
  | "save", [source, id] =>
    let pairs ← (g.values "set").mapM Command.assignment?
    return .command (.save source (← Text.readInt64? id) pairs dryRun)
  | "delete", [source, id] => return .command (.delete source (← Text.readInt64? id) dryRun)
  | "replace", [source, id, pattern, replacement] =>
    let rowId ← Text.readInt64? id
    return .command (.replace source rowId (g.phrase pattern) replacement dryRun)
  | _, _ => none

/-- The configuration file: that of the inner command line counts, then that of the outer one. -/
def configPath (outer inner : Given) : String :=
  ((inner.value? "config").orElse fun _ => outer.value? "config").getD
    ((configSetting.value.bind (·.default)).getD "")

end Given

namespace Invocation

/-- What is answered where the reading of a form stops. -/
def ofStop (help : Bool → String) : Stop → Invocation
  | .misuse => .misuse
  | .help long => .text (help long)
  | .version s => .text s

def ofCommand (outer : Given) (f : Form) (arguments : List String) : Invocation :=
  match f.read arguments with
  | .error stop => ofStop (commandHelp f) stop
  | .ok inner =>
    match inner.task? f.name with
    | some t => .task (outer.configPath inner) t
    | none => .misuse

def ofArguments (arguments : List String) : Invocation :=
  match programForm.readHead {} arguments with
  | .error stop => ofStop (fun _ => programHelp) stop
  | .ok (outer, name, rest) =>
    if name == "help" then helpOn rest
    else
      match commandForm? name with
      | some f => ofCommand outer f rest
      | none => .misuse

end Invocation

end TableSearch.CommandLine
