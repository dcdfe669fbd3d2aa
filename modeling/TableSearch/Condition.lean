import TableSearch.Like
import TableSearch.Regex.Search
import TableSearch.Value

/-!
# Conditions

A condition is a compiled filter: a predicate on one column of a row. Null satisfies no condition,
whether it is negated or not. All conditions but patterns can be evaluated by a store.
-/
namespace TableSearch

/-- How a cell is compared with a value. -/
inductive Comparison where
  | equal
  | different
  | greater
  | less
  deriving DecidableEq, Repr, Inhabited

/-- A predicate on the cell of one column. -/
inductive Condition where
  | compare (column : String) (comparison : Comparison) (value : Value)
  /-- Between two bounds, both included. -/
  | between (column : String) (low high : Value)
  | member (column : String) (values : List Value) (negate : Bool)
  | like (column : String) (pattern : LikePattern) (negate : Bool)
  | regex (column : String) (pattern : String) (matcher : Regex.Matcher) (negate : Bool)
  deriving Inhabited

def Comparison.holds (cell value : Value) : Comparison → Bool
  | equal => cell.looseEq value
  | different => !cell.looseEq value
  | greater => cell.order value == some .gt
  | less => cell.order value == some .lt

namespace Condition

def column : Condition → String
  | compare column .. => column
  | between column .. => column
  | member column .. => column
  | like column .. => column
  | regex column .. => column

/-- Whether a store can evaluate the condition. -/
def isNative : Condition → Bool
  | regex .. => false
  | _ => true

/-- Whether a cell that is not null satisfies the condition. -/
def holds (cell : Value) : Condition → Bool
  | compare _ comparison value => comparison.holds cell value
  | between _ low high =>
    (cell.order low == some .gt || cell.order low == some .eq) &&
      (cell.order high == some .lt || cell.order high == some .eq)
  | member _ values negate => values.any cell.looseEq != negate
  | like _ pattern negate => pattern.accepts cell.display != negate
  | regex _ _ matcher negate => matcher.isMatch cell.display.toList != negate

/-- Whether a row satisfies the condition. -/
def accepts (c : Condition) (row : Row) : Bool :=
  let cell := row.get c.column
  !cell.isNull && c.holds cell

end Condition

end TableSearch
