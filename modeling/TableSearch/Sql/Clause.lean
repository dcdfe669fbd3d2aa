import TableSearch.Condition
import TableSearch.Sql.Identifier

/-!
# Conditions as SQL

A condition that a database can evaluate is a term over one column with placeholders, and the
values that take their places, in order. The text of a term tells only its shape: it is the same
for all values. A clause is a conjunction of terms.
-/
namespace TableSearch.Sql

/-- A term of a clause; a question mark stands for each value. -/
inductive Term where
  | compare (column : String) (comparison : Comparison)
  | between (column : String)
  /-- Membership in a list of `count` values. -/
  | member (column : String) (count : Nat) (negate : Bool)
  | like (column : String) (negate : Bool)
  /-- Membership in no values: always false, or always true when negated. -/
  | constant (truth : Bool)
  deriving DecidableEq, Repr, Inhabited

def operator : Comparison → String
  | .equal => "="
  | .different => "<>"
  | .greater => ">"
  | .less => "<"

def negation (negate : Bool) : String := if negate then "NOT " else ""

def placeholders (count : Nat) : String := ", ".intercalate (List.replicate count "?")

/-- The SQL text of a term. -/
def Term.text : Term → String
  | compare column comparison => quote column ++ " " ++ operator comparison ++ " ?"
  | between column => quote column ++ " BETWEEN ? AND ?"
  | member column count negate =>
    quote column ++ " " ++ negation negate ++ "IN (" ++ placeholders count ++ ")"
  | like column negate => quote column ++ " " ++ negation negate ++ "LIKE ? ESCAPE '\\'"
  | constant true => "1 = 1"
  | constant false => "1 = 0"

/-- A term with the values for its placeholders. -/
structure BoundTerm where
  term : Term
  values : List Value
  deriving DecidableEq, Repr, Inhabited

/-- The term of a condition; a pattern has none. -/
def BoundTerm.ofCondition? : Condition → Option BoundTerm
  | .compare column comparison value => some ⟨.compare column comparison, [value]⟩
  | .between column low high => some ⟨.between column, [low, high]⟩
  | .member _ [] negate => some ⟨.constant negate, []⟩
  | .member column values negate => some ⟨.member column values.length negate, values⟩
  | .like column pattern negate => some ⟨.like column negate, [.text pattern.operand]⟩
  | .regex .. => none

/-- A conjunction of terms. -/
abbrev Clause := List BoundTerm

/-- The clause of conditions, or the column of the first that has no term. -/
def Clause.ofConditions : List Condition → Except String Clause
  | [] => .ok []
  | c :: cs =>
    match BoundTerm.ofCondition? c with
    | some t => (ofConditions cs).map (t :: ·)
    | none => .error c.column

/-- The SQL text of a clause; that of no terms is empty. -/
def Clause.text : Clause → String
  | [] => ""
  | terms => "WHERE " ++ " AND ".intercalate (terms.map (·.term.text))

/-- The values of a clause, in the order of their placeholders. -/
def Clause.values (clause : Clause) : List Value := clause.flatMap (·.values)

/-- What is said of a condition on a column that has no term. -/
def notEvaluable (column : String) : String :=
  "condition on '" ++ column ++ "' cannot be evaluated by SQLite"

end TableSearch.Sql
