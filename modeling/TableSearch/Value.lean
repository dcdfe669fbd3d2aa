import TableSearch.Text.Blank
import TableSearch.Text.Integer
import TableSearch.Dict

/-!
# Values and rows

A cell of a table is null, a 64-bit integer or a text. Integers and numeric texts are
interchangeable in comparisons (`Value.looseEq`, `Value.order`); null takes part in none.
-/
namespace TableSearch

/-- A raw cell. -/
inductive Value where
  | null
  | integer (n : Int64)
  | text (s : String)
  deriving DecidableEq, Inhabited, Repr

namespace Value

/-- What an operator sees: nothing for null, the decimal form of an integer, a text as it is. -/
def display : Value → String
  | null => ""
  | integer n => Text.writeInt64 n
  | text s => s

def isNull : Value → Bool
  | null => true
  | _ => false

/-- Whether the value is stored as an integer. -/
def isInteger : Value → Bool
  | integer _ => true
  | _ => false

/-- The value as an integer; a text counts if it is one between blanks. -/
def toInteger? : Value → Option Int64
  | null => none
  | integer n => some n
  | text s => Text.readInt64? (Text.trim s)

def toText? : Value → Option String
  | text s => some s
  | _ => none

/-- Equality of what is displayed; null equals only itself. -/
def looseEq : Value → Value → Bool
  | null, null => true
  | null, _ => false
  | _, null => false
  | integer a, integer b => a == b
  | text a, text b => a == b
  | a, b => a.display == b.display

/-- The order that comparison filters use. An integer and a value that reads as one compare as
numbers, any other two values as displayed texts, code point by code point. Null is unordered. -/
def order (a b : Value) : Option Ordering :=
  if a.isNull || b.isNull then none
  else
    match a.toInteger?, b.toInteger? with
    | some m, some n =>
      if a.isInteger || b.isInteger then some (compare m n)
      else some (compare a.display b.display)
    | _, _ => some (compare a.display b.display)

end Value

abbrev Cells := Dict String Value

/-- Proposed column changes, by column identifier. -/
abbrev Changes := Dict String Value

/-- One row of a table. -/
structure Row where
  id : Int64
  cells : Cells
  deriving DecidableEq, Inhabited

/-- The value of a column; a missing column reads as null. -/
def Row.get (row : Row) (column : String) : Value := (row.cells.get? column).getD .null

end TableSearch
