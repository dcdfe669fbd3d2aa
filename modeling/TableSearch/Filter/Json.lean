import TableSearch.Filter
import TableSearch.Value.Json

/-!
# Filters as JSON
-/
namespace TableSearch

def Logic.ofJson? (json : Json) : Option Logic :=
  json.word? (all.map fun logic => (logic.name, logic))

def Filter.toJson (f : Filter) : Json :=
  .record [("column", .text f.column), ("logic", .text f.logic.name),
    ("values", .list (f.values.map Value.toJson))]

def Filter.ofJson? (json : Json) : Option Filter := do
  match ← json.slots? ["column", "logic", "values"] with
  | [column, logic, values] =>
    return { column := ← Json.required? Json.text? column
             logic := ← Json.required? Logic.ofJson? logic
             values := ← Json.defaulted? [] (Json.listOf? Value.ofJson?) values }
  | _ => none

end TableSearch
