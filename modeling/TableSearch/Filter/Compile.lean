import TableSearch.Calendar.Reading
import TableSearch.Condition
import TableSearch.Filter

/-!
# Compiling filters

A filter is checked against a schema and becomes a condition. The checks are made in this order:
the column is known, the logic applies to its type, every value fits the type, there are as many
values as the logic takes, and a pattern is one.
-/
namespace TableSearch

/-- A date value in its written form: a text is read as a date-time, an integer counts seconds
from 1970-01-01. -/
def dateText? : Value → Option String
  | .null => none
  | .integer n => (Calendar.DateTime.ofSeconds? n.toInt).map Calendar.DateTime.write
  | .text s => (Calendar.readDateTime? s).map Calendar.DateTime.write

/-- A value as a column of a type and a logic take it, if it fits the type. Null fits none. -/
def coerce? (type : ColumnType) (logic : Logic) (v : Value) : Option Value :=
  if v.isNull then none
  else
    match type with
    | .integer => v.toInteger?.map .integer
    | .date => (dateText? v).map .text
    | .member => if logic.isMembership then some v else some (.text v.display)
    | .string => some (.text v.display)

/-- Coerce all values, or name the first that does not fit. -/
def coerceAll (column : Column) (logic : Logic) : List Value → Except FilterError (List Value)
  | [] => .ok []
  | v :: vs =>
    match coerce? column.type logic v with
    | none => .error (.incompatible column.id v.display column.type)
    | some a => (coerceAll column logic vs).map (a :: ·)

def sortBounds (low high : Value) : Value × Value :=
  if low.order high == some .gt then (high, low) else (low, high)

/-- Where the needle of a text logic has to occur. -/
def Logic.anchor : Logic → Anchor
  | begins => .start
  | ends => .finish
  | _ => .anywhere

def conditionOf (column : String) (logic : Logic) (values : List Value) :
    Except FilterError Condition :=
  match logic, values with
  | .includes, v :: vs => .ok (.member column (v :: vs) false)
  | .excludes, v :: vs => .ok (.member column (v :: vs) true)
  | .equals, [v] => .ok (.compare column .equal v)
  | .differs, [v] => .ok (.compare column .different v)
  | .greater, [v] => .ok (.compare column .greater v)
  | .less, [v] => .ok (.compare column .less v)
  | .range, [a, b] =>
    let (low, high) := sortBounds a b
    .ok (.between column low high)
  | .contains, [v] | .begins, [v] | .ends, [v] =>
    .ok (.like column ⟨logic.anchor, v.display⟩ false)
  | .lacks, [v] => .ok (.like column ⟨logic.anchor, v.display⟩ true)
  | .regex, [v] =>
    match Regex.Matcher.compile {} v.display with
    | .ok matcher => .ok (.regex column v.display matcher false)
    | .error e => .error (.invalidPattern (.malformed e))
  | logic, values => .error (.valueCount column logic.arity values.length)

/-- Check a filter against a schema and turn it into a condition. -/
def Filter.compile (f : Filter) (schema : Schema) : Except FilterError Condition := do
  match schema.column? f.column with
  | none => .error (.unknownColumn f.column)
  | some column =>
    if !f.logic.supports column.type then
      .error (.unsupportedLogic column.id f.logic column.type)
    else
      let values ← coerceAll column f.logic f.values
      conditionOf column.id f.logic values

end TableSearch
