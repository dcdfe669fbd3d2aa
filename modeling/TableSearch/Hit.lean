import TableSearch.Context
import TableSearch.Source.Labels

/-!
# Hits

A hit is a row as a result shows it: one context for each column of the schema, in its order. A
searched column in which the phrase matches shows the matches, every other column its value with a
label. Contexts are numbered and matches counted while the columns are passed through. The numbers
are natural numbers, so a schema may have more columns than 32 bits can count.
-/
namespace TableSearch

/-- A row as a result shows it. -/
structure Hit where
  rowId : Int64
  title : String
  source : String
  schemaName : String
  /-- The number of matches in all columns. -/
  matchCount : Nat
  columns : List (String × Context)
  deriving DecidableEq, Repr, Inhabited

namespace Hit

def isMatched (h : Hit) : Bool := h.matchCount != 0

/-- The context of the matches in a cell, if a phrase is searched there and matches. -/
def matchIn? (finder : Option Finder) (c : Column) (id : Nat) (cell : Value) : Option Context :=
  match finder with
  | none => none
  | some f => if c.global && !cell.isNull then Context.find? id cell.display f else none

variable {σ : Type}

/-- The context of a cell: the matches there, which are added to `count`, or the value with its
label. -/
def contextBy (label : Column → Value → StateM σ String) (finder : Option Finder) (c : Column)
    (id count : Nat) (cell : Value) : StateM σ (Nat × Context) :=
  match matchIn? finder c id cell with
  | some context => pure (count + context.matchCount, context)
  | none => do
    let text ← label c cell
    return (count, .ofValue id cell (some text))

/-- The contexts of columns, numbered from `id`, and the matches in them counted from `count`. -/
def contextsBy (label : Column → Value → StateM σ String) (row : Row) (finder : Option Finder) :
    Nat → Nat → List Column → StateM σ (Nat × List (String × Context))
  | _, count, [] => pure (count, [])
  | id, count, c :: cs => do
    let (count, context) ← contextBy label finder c id count (row.get c.id)
    let (count, rest) ← contextsBy label row finder (id + 1) count cs
    return (count, (c.id, context) :: rest)

/-- What a result shows of a row, the values labelled in a given way. -/
def labelledBy (label : Column → Value → StateM σ String) (s : Source) (row : Row)
    (finder : Option Finder) : StateM σ Hit := do
  let (matchCount, columns) ← contextsBy label row finder 0 0 s.schema.columns
  return { rowId := row.id
           title := (row.get s.titleColumn).display
           source := s.name
           schemaName := s.schema.name
           matchCount
           columns }

/-- What a result shows of a row, the values labelled by the rules of the source. -/
def ofRow [Store σ] (s : Source) (row : Row) (finder : Option Finder) : StateM σ Hit :=
  labelledBy s.labelOf s row finder

end Hit

end TableSearch
