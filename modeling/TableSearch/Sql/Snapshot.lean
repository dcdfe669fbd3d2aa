import TableSearch.Json.Printer
import TableSearch.Json.Reader
import TableSearch.Json.Record
import TableSearch.Sql.Database

/-!
# Databases as texts

A database is kept between runs as a JSON text: every table with its columns and its numbered rows.
A text that encodes characters is written as such, all other bytes one by one.
-/
namespace TableSearch.Sql

def bytesToJson (bytes : List UInt8) : Json := .list (bytes.map fun b => .ofNat b.toNat)

def byteOfJson? : Json → Option UInt8
  | .integer n => if 0 ≤ n ∧ n < 256 then some (UInt8.ofNat n.toNat) else none
  | _ => none

def bytesOfJson? : Json → Option (List UInt8) := Json.listOf? byteOfJson?

def doubleToJson : Double → Json
  | .finite negative mantissa exponent =>
    .list [.bool negative, .ofNat mantissa, .integer exponent]
  | .infinite negative => .list [.bool negative]

def doubleOfJson? : Json → Option Double
  | .list [.bool negative, .integer mantissa, .integer exponent] =>
    some (.finite negative mantissa.toNat exponent)
  | .list [.bool negative] => some (.infinite negative)
  | _ => none

namespace Cell

def toJson : Cell → Json
  | null => .null
  | integer n => .ofInt64 n
  | real x => .record [("real", doubleToJson x)]
  | text bytes =>
    if Text.Utf8.encode (decode bytes) = bytes then .text (decode bytes)
    else .record [("text", bytesToJson bytes)]
  | blob bytes => .record [("blob", bytesToJson bytes)]

def ofJson? : Json → Option Cell
  | .null => some null
  | .integer n => (Text.toInt64? n).map integer
  | .text s => some (ofString s)
  | .record [("real", j)] => (doubleOfJson? j).map real
  | .record [("text", j)] => (bytesOfJson? j).map text
  | .record [("blob", j)] => (bytesOfJson? j).map blob
  | _ => none

end Cell

namespace Affinity

def words : List (String × Affinity) :=
  [("integer", integer), ("real", real), ("numeric", numeric), ("text", text), ("blob", blob)]

def word : Affinity → String
  | integer => "integer"
  | real => "real"
  | numeric => "numeric"
  | text => "text"
  | blob => "blob"

end Affinity

namespace ColumnDef

def toJson (c : ColumnDef) : Json :=
  .list [.text c.name, .text c.affinity.word, .bool c.isKey, .bool c.notNull, .bool c.unique,
    c.default.toJson]

def ofJson? : Json → Option ColumnDef
  | .list [.text name, affinity, .bool isKey, .bool notNull, .bool unique, default] => do
    return ⟨name, ← Json.word? Affinity.words affinity, isKey, notNull, unique,
      ← Cell.ofJson? default⟩
  | _ => none

end ColumnDef

namespace Table

/-- A row as JSON: its number before its cells. -/
def rowToJson (number : Int64) (cells : List Cell) : Json :=
  .list (.ofInt64 number :: cells.map Cell.toJson)

def rowOfJson? : Json → Option (Int64 × List Cell)
  | .list (number :: cells) => do return (← number.int64?, ← cells.mapM Cell.ofJson?)
  | _ => none

def toJson (t : Table) : Json :=
  .record [("columns", .list (t.columns.map ColumnDef.toJson)),
    ("rows", .list (t.rows.toList.map fun (number, cells) => rowToJson number cells))]

def ofJson? : Json → Option Table
  | .record [("columns", columns), ("rows", rows)] => do
    let rows ← Json.listOf? rowOfJson? rows
    return ⟨← Json.listOf? ColumnDef.ofJson? columns, .ofList rows⟩
  | _ => none

end Table

namespace Database

def write (d : Database) : String := (Json.ofDict Table.toJson d.tables).write

def read? (s : String) : Option Database :=
  ((Json.read? s).bind (Json.dictOf? Table.ofJson?)).map (⟨·⟩)

end Database

end TableSearch.Sql
