import TableSearch.Condition
import TableSearch.Suggestion

/-!
# Stores

A store keeps tables and answers six operations on them. Its content is a value of some type `σ`;
an operation gives an answer or an error, and the content after it. Reading is an operation like
any other, so a store may also keep count of what it was asked.
-/
namespace TableSearch

/-- A table and the column that identifies its rows. -/
structure TableRef where
  name : String
  idColumn : String := "id"
  deriving DecidableEq, Repr, Inhabited

/-- A column that labels the keys of a table. -/
structure ForeignKey where
  table : String
  key : String
  label : String
  deriving DecidableEq, Repr, Inhabited

/-- The operations of a store. -/
inductive Operation where
  | select
  | fetch
  | lookup
  | suggest
  | update
  | delete
  deriving DecidableEq, Repr, Inhabited

def Operation.name : Operation → String
  | select => "select"
  | fetch => "fetch"
  | lookup => "lookup"
  | suggest => "suggest"
  | update => "update"
  | delete => "delete"

/-- Why a store operation failed. -/
inductive StoreError where
  | select (table : String)
  | fetch (table : String) (id : Int64)
  | lookup (table : String) (key : Value)
  | suggest (table : String) (label : String)
  | update (table : String) (id : Int64)
  | delete (table : String) (id : Int64)
  /-- A row has no integer in the column that identifies it. -/
  | missingId (column : String)
  /-- The store cannot evaluate a condition on a column. -/
  | notEvaluable (column : String)
  /-- The operation was made to fail. -/
  | injected (operation : Operation)
  deriving DecidableEq, Repr, Inhabited

def StoreError.message : StoreError → String
  | select table => "Failed to select from " ++ table
  | fetch table id => "Failed to fetch " ++ table ++ " row " ++ Text.writeInt64 id
  | lookup table key => "Failed to look up " ++ key.display ++ " in " ++ table
  | suggest table label => "Failed to autocomplete " ++ label ++ " in " ++ table
  | update table id => "Failed to update " ++ table ++ " row " ++ Text.writeInt64 id
  | delete table id => "Failed to delete " ++ table ++ " row " ++ Text.writeInt64 id
  | missingId column => "row has no integer id column '" ++ column ++ "'"
  | notEvaluable column => "condition on '" ++ column ++ "' cannot be evaluated by SQLite"
  | injected operation => "store failed: " ++ operation.name

/-- A computation over a state `σ` that may fail; what it did before a failure stays done. -/
abbrev Access (σ ε α : Type) := ExceptT ε (StateM σ) α

namespace Access

variable {σ τ ε δ α : Type}

/-- The computation that is a function of the state and does not change it. -/
def ofRead (f : σ → Except ε α) : Access σ ε α := fun s => (f s, s)

/-- Run a computation and hand its error over as a value. -/
def attempt (a : Access σ ε α) : StateM σ (Except ε α) := a

def mapError (f : ε → δ) (a : Access σ ε α) : Access σ δ α := fun s =>
  let (r, s) := a.attempt s
  (r.mapError f, s)

end Access

/-- The operations on a store with content `σ`. -/
class Store (σ : Type) where
  /-- The rows that satisfy all conditions, by ascending id: at most `limit` of them after the
  first `offset`. -/
  select (table : TableRef) (conditions : List Condition) (limit offset : Int) :
    Access σ StoreError (List Row)
  /-- The row with an id. -/
  fetch (table : TableRef) (id : Int64) : Access σ StoreError (Option Row)
  /-- The label of a key. -/
  lookup (labels : ForeignKey) (key : Value) : Access σ StoreError (Option String)
  /-- Keys whose label satisfies a pattern, by label and key, at most `limit` of them. -/
  suggest (labels : ForeignKey) (pattern : LikePattern) (limit : Int) :
    Access σ StoreError (List Suggestion)
  /-- Write cells of an existing row, the one that identifies it excepted; whether there is such a
  row. -/
  update (table : TableRef) (row : Row) : Access σ StoreError Bool
  /-- Remove a row; whether there was one. -/
  delete (table : TableRef) (id : Int64) : Access σ StoreError Bool

end TableSearch
