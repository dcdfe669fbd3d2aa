import TableSearch.Http.Message

/-!
# Routes

The resources that are served and the methods that each allows. The names and numbers in a path
are still encoded here.
-/
namespace TableSearch.Http

/-- A resource. -/
inductive Route where
  | health
  | sources
  | searchMany
  | schema (source : List Char)
  | search (source : List Char)
  | suggest (source : List Char)
  | preload (source : List Char)
  | row (source rowId : List Char)
  | replace (source rowId : List Char)
  deriving DecidableEq, Repr, Inhabited

namespace Route

/-- The resource of a path. A name or number in it is not empty. -/
def ofPath? (path : List Char) : Option Route :=
  match (splitAt '/' path).map String.ofList with
  | ["", "health"] => some .health
  | ["", "sources"] => some .sources
  | ["", "search"] => some .searchMany
  | ["", "sources", name, last] =>
    if name.isEmpty then none
    else
      match last with
      | "schema" => some (.schema name.toList)
      | "search" => some (.search name.toList)
      | "autocomplete" => some (.suggest name.toList)
      | "preload" => some (.preload name.toList)
      | _ => none
  | ["", "sources", name, "rows", id] =>
    if name.isEmpty || id.isEmpty then none else some (.row name.toList id.toList)
  | ["", "sources", name, "rows", id, "replace"] =>
    if name.isEmpty || id.isEmpty then none else some (.replace name.toList id.toList)
  | _ => none

/-- The methods that a resource allows. One that can be got can also be probed. -/
def methods : Route → List String
  | health | sources | schema _ => ["GET", "HEAD"]
  | searchMany | search _ | suggest _ | preload _ | replace .. => ["POST"]
  | row .. => ["GET", "HEAD", "POST", "DELETE"]

end Route

/-- The source that a path names, or the status that refuses the path. -/
def sourceName (name : List Char) : Except Nat String :=
  match decodeSegment? name with
  | some s => .ok s
  | none => .error 400

/-- The source and row that a path names, or the status that refuses the path. -/
def rowName (name rowId : List Char) : Except Nat (String × Int64) :=
  match decodeSegment? name, (decodeSegment? rowId).bind Text.readInt64? with
  | some s, some n => .ok (s, n)
  | _, _ => .error 400

end TableSearch.Http
