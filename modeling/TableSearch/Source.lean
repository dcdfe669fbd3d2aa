import TableSearch.Filter
import TableSearch.Store

/-!
# Sources

A source is a table that can be searched: its schema, what results and messages call it, and the
rules for labels and suggestions of its columns. The rules are data; `Source.labelOf`,
`Source.suggest` and `Source.preload` apply them to a store.
-/
namespace TableSearch

/-- Where a source comes from. -/
inductive SourceKind where
  | core
  | plugin
  deriving DecidableEq, Repr, Inhabited

def SourceKind.name : SourceKind → String
  | core => "core"
  | plugin => "plugin"

/-- What labels the values of a column. -/
inductive LabelRule where
  /-- The value itself. -/
  | raw
  /-- The listed options of the column. -/
  | options
  /-- One text has a label of its own; other values have those of the options. -/
  | renamed (text label : String)
  /-- The table that the values are keys of; the options if a key has no label there. -/
  | lookup (labels : ForeignKey)
  deriving DecidableEq, Repr, Inhabited

/-- What labels the keys in a filter on a column. -/
inductive PreloadRule where
  /-- Keys are not labelled. -/
  | nothing
  | options
  | lookup (labels : ForeignKey)
  deriving DecidableEq, Repr, Inhabited

/-- A table that can be searched. -/
structure Source where
  name : String
  label : String
  kind : SourceKind
  /-- What implements the source, as listings show it. -/
  className : String
  schema : Schema
  idColumn : String := "id"
  /-- The column whose value is the title of a result. -/
  titleColumn : String
  /-- What messages call a row. -/
  noun : String := "row"
  /-- The action that is audited for a save. -/
  saveAction : String := "save"
  labelRule : Column → LabelRule := fun _ => .raw
  preloadRule : Column → PreloadRule := fun _ => .nothing
  /-- Where the suggestions for a column come from. -/
  suggestRule : Column → Option ForeignKey := fun _ => none
  deriving Inhabited

namespace Source

def table (s : Source) : TableRef := ⟨s.schema.table, s.idColumn⟩

def deleteAction (s : Source) : String := "delete " ++ s.noun

/-- Whether a change of a column is taken: the column is known, may be changed and does not
identify the row. -/
def takes (s : Source) (column : String) : Bool :=
  column != s.idColumn && ((s.schema.column? column).map (·.modify)).getD false

/-- The changes that are taken; the others are dropped. -/
def accepted (s : Source) (changes : Changes) : Changes := changes.filter fun c _ => s.takes c

end Source

/-- A column whose values are suggestions of themselves. -/
def ForeignKey.own (table column : String) : ForeignKey := ⟨table, column, column⟩

/-- Why an operation on a source failed. -/
inductive SourceError where
  | updateFailed (noun : String)
  | deleteFailed (noun : String)
  | filter (error : FilterError)
  | backend (error : StoreError)
  deriving DecidableEq, Repr, Inhabited

namespace SourceError

def message : SourceError → String
  | updateFailed noun => "Failed to update " ++ noun
  | deleteFailed noun => "Failed to delete " ++ noun
  | filter e => e.message
  | backend e => e.message

/-- The code that callers tell errors apart by. -/
def code : SourceError → String
  | updateFailed _ => "searchregex"
  | deleteFailed _ => "searchregex_delete"
  | filter _ => "searchregex_filter"
  | backend _ => "searchregex_query"

/-- The HTTP status of an error; a failed update names none. -/
def status? : SourceError → Option Nat
  | updateFailed _ => none
  | deleteFailed _ => some 401
  | filter _ => some 400
  | backend _ => some 500

end SourceError

end TableSearch
