import TableSearch.Registry
import TableSearch.Source.Redirection

/-!
# Configuration

A configuration names the database, the defaults of searches, whether changes are written, and the
tables that are exposed besides those of the redirection plugin. A valid one has positive page and
batch sizes, a plain table prefix, no table under a name that the plugin uses, and a valid schema
with a declared title column for every table.
-/
namespace TableSearch

/-- A column of an exposed table. -/
structure TableColumn where
  column : Column
  /-- The table that the values are keys of. -/
  lookup : Option ForeignKey := none
  deriving DecidableEq, Repr, Inhabited

/-- An exposed table. -/
structure TableSetup where
  label : String
  table : String
  idColumn : String := "id"
  titleColumn : String
  columns : List TableColumn
  deriving DecidableEq, Repr, Inhabited

/-- The settings of the redirection plugin. -/
structure RedirectionSetup where
  modules : Option Modules := none
  deriving DecidableEq, Repr, Inhabited

/-- The settings of a search. -/
structure SearchSetup where
  /-- The most results of a page, where a request names no limit. -/
  pageSize : Int64 := 25
  /-- The rows that are selected at a time. -/
  batchSize : Int64 := 200
  deriving DecidableEq, Repr, Inhabited

/-- A configuration. -/
structure Config where
  path : String
  tablePrefix : String := "wp_"
  search : SearchSetup := {}
  /-- Whether changes are written; else they are only audited. -/
  allowWrite : Bool := false
  /-- The address that is served. -/
  bind : String := "127.0.0.1:7341"
  /-- The redirection plugin, if it is in use. -/
  redirection : Option RedirectionSetup := none
  tables : Dict String TableSetup := .empty
  deriving DecidableEq, Inhabited

/-- What is wrong with a configuration. -/
inductive ConfigError where
  | unreadable (path : String)
  | malformed
  | pageSize
  | batchSize
  | tablePrefix (tablePrefix : String)
  | reservedName (table : String)
  | columns (table : String) (error : SchemaError)
  | titleColumn (table column : String)
  deriving DecidableEq, Repr, Inhabited

/-- The texts of a configuration error, the most general first. -/
def ConfigError.texts : ConfigError → List String
  | unreadable path => ["Failed to read config file: " ++ path]
  | malformed => ["Failed to parse config file"]
  | pageSize => ["search.page_size must be >= 1"]
  | batchSize => ["search.batch_size must be >= 1"]
  | tablePrefix p =>
    ["db.table_prefix must contain only letters, digits and '_', got '" ++ p ++ "'"]
  | reservedName table => ["tables." ++ table ++ ": name is reserved for the redirection plugin"]
  | columns table e => ["tables." ++ table ++ ": invalid columns", e.message]
  | titleColumn table column =>
    ["tables." ++ table ++ ": title_column '" ++ column ++ "' is not a declared column"]

namespace TableColumn

/-- The column of the schema: the values of a column with a look-up are asked for, and the keys
in filters on it are labelled. -/
def toColumn (c : TableColumn) : Column :=
  match c.lookup with
  | none => c.column
  | some _ => { c.column with
      options := c.column.options <|> some .suggested
      preload := true }

end TableColumn

namespace TableSetup

def schema (t : TableSetup) : Schema := ⟨t.label, t.table, t.columns.map (·.toColumn)⟩

def lookup? (t : TableSetup) (column : String) : Option ForeignKey :=
  (t.columns.reverse.filter (·.column.id == column)).findSome? (·.lookup)

/-- The source of an exposed table. -/
def source (name : String) (t : TableSetup) : Source where
  name
  label := t.label
  kind := .core
  className := "TableSource"
  schema := t.schema
  idColumn := t.idColumn
  titleColumn := t.titleColumn
  labelRule c :=
    match t.lookup? c.id with
    | some labels => .lookup labels
    | none => .options
  preloadRule c :=
    match t.lookup? c.id with
    | some labels => .lookup labels
    | none => .options
  suggestRule c :=
    match t.lookup? c.id with
    | some labels => some labels
    | none => if c.options = some .suggested then some (.own t.table c.id) else none

end TableSetup

namespace Config

def isPlain (c : Char) : Bool := c.isAlphanum || c == '_'

def tableError? (name : String) (t : TableSetup) : Option ConfigError :=
  if name = Redirection.itemsName ∨ name = Redirection.groupsName then some (.reservedName name)
  else
    match t.schema.error? with
    | some e => some (.columns name e)
    | none =>
      if t.columns.any (·.column.id == t.titleColumn) then none
      else some (.titleColumn name t.titleColumn)

/-- The first thing wrong with a configuration. -/
def error? (c : Config) : Option ConfigError :=
  if c.search.pageSize < 1 then some .pageSize
  else if c.search.batchSize < 1 then some .batchSize
  else if !c.tablePrefix.toList.all isPlain then some (.tablePrefix c.tablePrefix)
  else c.tables.toList.findSome? fun (name, t) => tableError? name t

/-- The sources that a configuration names: those of the redirection plugin, if it is in use, then
the exposed tables by name. -/
def sources (c : Config) : List Source :=
  (match c.redirection with
    | none => []
    | some setup =>
      [Redirection.items c.tablePrefix, Redirection.groups c.tablePrefix setup.modules]) ++
  c.tables.toList.map fun (name, t) => t.source name

def registry (c : Config) : Except NameTaken Registry := Registry.empty.registerAll c.sources

end Config

end TableSearch
