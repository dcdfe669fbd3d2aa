import TableSearch.Config
import TableSearch.Sql.Database

/-!
# The tables of the redirection plugin in a database

They are created for a configuration that uses the plugin, unless they exist.
-/
namespace TableSearch.Sql

def groupsDeclaration : List (String × String) := [
  ("id", "INTEGER PRIMARY KEY AUTOINCREMENT"),
  ("name", "TEXT NOT NULL"),
  ("tracking", "INTEGER NOT NULL DEFAULT 1"),
  ("module_id", "INTEGER NOT NULL DEFAULT 1"),
  ("status", "TEXT NOT NULL DEFAULT 'enabled'"),
  ("position", "INTEGER NOT NULL DEFAULT 0")]

def itemsDeclaration : List (String × String) := [
  ("id", "INTEGER PRIMARY KEY AUTOINCREMENT"),
  ("url", "TEXT NOT NULL"),
  ("match_url", "TEXT"),
  ("match_data", "TEXT"),
  ("regex", "INTEGER NOT NULL DEFAULT 0"),
  ("position", "INTEGER NOT NULL DEFAULT 0"),
  ("last_count", "INTEGER NOT NULL DEFAULT 0"),
  ("last_access", "TEXT NOT NULL DEFAULT '1970-01-01 00:00:00'"),
  ("group_id", "INTEGER NOT NULL DEFAULT 0"),
  ("status", "TEXT NOT NULL DEFAULT 'enabled'"),
  ("action_type", "TEXT NOT NULL DEFAULT 'url'"),
  ("action_code", "INTEGER NOT NULL DEFAULT 301"),
  ("action_data", "TEXT"),
  ("match_type", "TEXT NOT NULL DEFAULT 'url'"),
  ("title", "TEXT")]

def columnsOf (declarations : List (String × String)) : List ColumnDef :=
  declarations.map fun (name, declaration) => .ofDeclaration name declaration

/-- Create the tables of the plugin, if a configuration uses it. -/
def Database.migrate (d : Database) (c : Config) : Database :=
  if c.redirection.isNone then d
  else
    (d.create (Redirection.groupsTable c.tablePrefix) (columnsOf groupsDeclaration)).create
      (Redirection.itemsTable c.tablePrefix) (columnsOf itemsDeclaration)

end TableSearch.Sql
