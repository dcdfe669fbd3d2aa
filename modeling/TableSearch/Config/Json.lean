import TableSearch.Config
import TableSearch.Schema.Json

/-!
# Configurations out of trees

The sections of a configuration are records that may be left out, except the one that names the
database.
-/
namespace TableSearch

open Json (required? defaulted? text? bool? int64? nullable? listOf?)

def ForeignKey.ofJson? (json : Json) : Option ForeignKey := do
  match ← json.slots? ["table", "key", "label"] with
  | [table, key, label] =>
    return ⟨← required? text? table, ← required? text? key, ← required? text? label⟩
  | _ => none

def ForeignKey.toJson (k : ForeignKey) : Json :=
  .record [("table", .text k.table), ("key", .text k.key), ("label", .text k.label)]

def TableColumn.ofJson? (json : Json) : Option TableColumn := do
  match ← json.slots?
      ["column", "type", "title", "modify", "options", "global", "preload", "lookup"] with
  | [column, type, title, modify, options, global, preload, lookup] =>
    let column : Column :=
      { id := ← required? text? column
        type := ← required? ColumnType.ofJson? type
        title := ← required? text? title
        modify := ← defaulted? true bool? modify
        options := ← defaulted? none (nullable? ColumnOptions.ofJson?) options
        global := ← defaulted? false bool? global
        preload := ← defaulted? false bool? preload }
    return ⟨column, ← defaulted? none (nullable? ForeignKey.ofJson?) lookup⟩
  | _ => none

def TableSetup.ofJson? (json : Json) : Option TableSetup := do
  match ← json.slots? ["label", "table", "id_column", "title_column", "columns"] with
  | [label, table, idColumn, titleColumn, columns] =>
    return { label := ← required? text? label
             table := ← required? text? table
             idColumn := ← defaulted? "id" text? idColumn
             titleColumn := ← required? text? titleColumn
             columns := ← required? (listOf? TableColumn.ofJson?) columns }
  | _ => none

def Modules.ofJson? (json : Json) : Option Modules := do
  match ← json.slots? ["wordpress", "apache", "nginx"] with
  | [wordpress, apache, nginx] =>
    return ⟨← required? int64? wordpress, ← required? int64? apache, ← required? int64? nginx⟩
  | _ => none

def RedirectionSetup.ofJson? (json : Json) : Option RedirectionSetup := do
  match ← json.slots? ["modules"] with
  | [modules] => return ⟨← defaulted? none (nullable? Modules.ofJson?) modules⟩
  | _ => none

namespace Config

def database? (json : Json) : Option (String × String) := do
  match ← json.slots? ["path", "table_prefix"] with
  | [path, tablePrefix] =>
    return (← required? text? path, ← defaulted? "wp_" text? tablePrefix)
  | _ => none

def search? (json : Json) : Option SearchSetup := do
  match ← json.slots? ["page_size", "batch_size"] with
  | [pageSize, batchSize] =>
    return ⟨← defaulted? 25 int64? pageSize, ← defaulted? 200 int64? batchSize⟩
  | _ => none

def permissions? (json : Json) : Option Bool := do
  match ← json.slots? ["allow_write"] with
  | [allowWrite] => defaulted? false bool? allowWrite
  | _ => none

def server? (json : Json) : Option String := do
  match ← json.slots? ["bind"] with
  | [bind] => defaulted? "127.0.0.1:7341" text? bind
  | _ => none

/-- The plugins in use. An empty array is no list of them. -/
def plugins? (json : Json) : Option (Option RedirectionSetup) := do
  match json, ← json.slots? ["redirection"] with
  | .list [], _ => none
  | _, [redirection] => defaulted? none (nullable? RedirectionSetup.ofJson?) redirection
  | _, _ => none

def ofJson? (json : Json) : Option Config := do
  match ← json.slots? ["db", "search", "permissions", "server", "plugins", "tables"] with
  | [db, search, permissions, server, plugins, tables] =>
    let (path, tablePrefix) ← required? database? db
    return { path, tablePrefix
             search := ← defaulted? {} search? search
             allowWrite := ← defaulted? false permissions? permissions
             bind := ← defaulted? "127.0.0.1:7341" server? server
             redirection := ← defaulted? none plugins? plugins
             tables := ← defaulted? .empty (Json.dictOf? TableSetup.ofJson?) tables }
  | _ => none

end Config

end TableSearch
