import TableSearch.Source

/-!
# The tables of the redirection plugin

Two sources: the redirections and the groups they belong to. A redirection shows the name of its
group; one that was never used says so.
-/
namespace TableSearch

/-- The numbers of the modules that groups belong to. -/
structure Modules where
  wordpress : Int64
  apache : Int64
  nginx : Int64
  deriving DecidableEq, Repr, Inhabited

namespace Redirection

def itemsName : String := "redirection"

def groupsName : String := "redirection-groups"

def itemsTable (tablePrefix : String) : String := tablePrefix ++ "redirection_items"

def groupsTable (tablePrefix : String) : String := tablePrefix ++ "redirection_groups"

/-- The time of last access of a redirection that was never used. -/
def neverAccessed : String := "1970-01-01 00:00:00"

def statusOptions : ColumnOptions := .listed [⟨"enabled", "Enabled"⟩, ⟨"disabled", "Disabled"⟩]

def codeOptions : ColumnOptions :=
  .listed ([301, 302, 303, 304, 307, 308, 400, 401, 403, 404, 410, 418, 451, 500, 501, 502, 503,
    504].map fun code : Nat => ⟨Text.writeNat code, Text.writeNat code⟩)

/-- The modules as options; none if their numbers are not known. -/
def moduleOptions : Option Modules → ColumnOptions
  | none => .listed []
  | some m =>
    .listed [⟨Text.writeInt64 m.wordpress, "WordPress"⟩, ⟨Text.writeInt64 m.apache, "Apache"⟩,
      ⟨Text.writeInt64 m.nginx, "Nginx"⟩]

def itemsColumns : List Column := [
  { id := "id", type := .integer, title := "ID", modify := false },
  { id := "url", type := .string, title := "Source URL", options := some .suggested,
    global := true },
  { id := "last_count", type := .integer, title := "Hit Count" },
  { id := "last_access", type := .date, title := "Last Access" },
  { id := "group_id", type := .member, title := "Group", options := some .suggested,
    preload := true },
  { id := "status", type := .member, title := "Status", options := some statusOptions },
  { id := "position", type := .integer, title := "Position" },
  { id := "action_code", type := .member, title := "HTTP Code", options := some codeOptions },
  { id := "title", type := .string, title := "Title", global := true },
  { id := "action_data", type := .string, title := "Target", global := true }]

def groupsColumns (modules : Option Modules) : List Column := [
  { id := "id", type := .integer, title := "ID", modify := false },
  { id := "name", type := .string, title := "Name", options := some .suggested, global := true },
  { id := "module_id", type := .member, title := "Module", options := some (moduleOptions modules) },
  { id := "status", type := .member, title := "Status", options := some statusOptions }]

def groupNames (tablePrefix : String) : ForeignKey := ⟨groupsTable tablePrefix, "id", "name"⟩

def items (tablePrefix : String) : Source where
  name := itemsName
  label := "Redirection"
  kind := .plugin
  className := "RedirectionSource"
  schema := ⟨"Redirection", itemsTable tablePrefix, itemsColumns⟩
  titleColumn := "url"
  noun := "redirection"
  saveAction := "redirect"
  labelRule c :=
    if c.id = "group_id" then .lookup (groupNames tablePrefix)
    else if c.id = "last_access" then .renamed neverAccessed "Not accessed"
    else .options
  preloadRule c := if c.id = "group_id" then .lookup (groupNames tablePrefix) else .nothing
  suggestRule c :=
    if c.id = "url" then some (.own (itemsTable tablePrefix) "url")
    else if c.id = "group_id" then some (groupNames tablePrefix)
    else none

def groups (tablePrefix : String) (modules : Option Modules) : Source where
  name := groupsName
  label := "Redirection Groups"
  kind := .plugin
  className := "RedirectionGroupsSource"
  schema := ⟨"Redirection Groups", groupsTable tablePrefix, groupsColumns modules⟩
  titleColumn := "name"
  noun := "redirection group"
  saveAction := "redirect"
  labelRule _ := .options
  suggestRule c := if c.id = "name" then some (.own (groupsTable tablePrefix) "name") else none

end Redirection

end TableSearch
