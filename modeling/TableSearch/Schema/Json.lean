import TableSearch.Json.Record
import TableSearch.Schema

/-!
# Schemas as JSON

What a column leaves at its default is not written: `modify` when true, `options` when absent,
`global` and `preload` when false.
-/
namespace TableSearch

def ColumnType.ofJson? (json : Json) : Option ColumnType :=
  json.word? ([string, integer, date, member].map fun t => (t.name, t))

def ColumnOption.toJson (o : ColumnOption) : Json :=
  .record [("value", .text o.value), ("label", .text o.label)]

def ColumnOption.ofJson? (json : Json) : Option ColumnOption := do
  match ← json.slots? ["value", "label"] with
  | [value, label] =>
    return { value := ← Json.required? Json.text? value
             label := ← Json.required? Json.text? label }
  | _ => none

def ColumnOptions.marker : String := "api"

/-- Options as JSON: a list, or the word for options that are asked for. -/
def ColumnOptions.toJson : ColumnOptions → Json
  | listed options => .list (options.map ColumnOption.toJson)
  | suggested => .text marker

def ColumnOptions.ofJson? : Json → Option ColumnOptions
  | .text s => if s = marker then some suggested else none
  | json => (json.listOf? ColumnOption.ofJson?).map listed

def Json.fieldIf (write : Bool) (name : String) (value : Json) : List (String × Json) :=
  if write then [(name, value)] else []

def Column.toJson (c : Column) : Json :=
  .record (
    [("column", .text c.id), ("type", .text c.type.name), ("title", .text c.title)] ++
    Json.fieldIf (!c.modify) "modify" (.bool false) ++
    (c.options.map fun o => ("options", o.toJson)).toList ++
    Json.fieldIf c.global "global" (.bool true) ++
    Json.fieldIf c.preload "preload" (.bool true))

def Column.ofJson? (json : Json) : Option Column := do
  match ← json.slots? ["column", "type", "title", "modify", "options", "global", "preload"] with
  | [column, type, title, modify, options, global, preload] =>
    return { id := ← Json.required? Json.text? column
             type := ← Json.required? ColumnType.ofJson? type
             title := ← Json.required? Json.text? title
             modify := ← Json.defaulted? true Json.bool? modify
             options := ← Json.defaulted? none (Json.nullable? ColumnOptions.ofJson?) options
             global := ← Json.defaulted? false Json.bool? global
             preload := ← Json.defaulted? false Json.bool? preload }
  | _ => none

def Schema.toJson (s : Schema) : Json :=
  .record [("name", .text s.name), ("table", .text s.table),
    ("columns", .list (s.columns.map Column.toJson))]

def Schema.ofJson? (json : Json) : Option Schema := do
  match ← json.slots? ["name", "table", "columns"] with
  | [name, table, columns] =>
    return { name := ← Json.required? Json.text? name
             table := ← Json.required? Json.text? table
             columns := ← Json.required? (Json.listOf? Column.ofJson?) columns }
  | _ => none

end TableSearch
