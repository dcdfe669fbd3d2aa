import TableSearch.Json.Record
import TableSearch.Value

/-!
# Values as JSON

A value is a JSON null, an integer of 64 bits or a string; nothing else is one. Reading undoes
writing (`Value.ofJson?_toJson`).
-/
namespace TableSearch

def Value.toJson : Value → Json
  | null => .null
  | integer n => .integer n.toInt
  | text s => .text s

def Value.ofJson? : Json → Option Value
  | .null => some null
  | .integer n => (Text.toInt64? n).map integer
  | .text s => some (text s)
  | _ => none

@[simp] theorem Value.ofJson?_toJson (v : Value) : ofJson? v.toJson = some v := by
  cases v <;> simp [toJson, ofJson?, Text.toInt64?_toInt]

/-- Cells or changes as JSON, by column in order. -/
def Cells.toJson (cells : Cells) : Json := .ofDict Value.toJson cells

def Cells.ofJson? (json : Json) : Option Cells := json.dictOf? Value.ofJson?

end TableSearch
