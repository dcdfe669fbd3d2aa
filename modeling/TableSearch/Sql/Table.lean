import TableSearch.Dict
import TableSearch.Like
import TableSearch.Sql.Clause
import TableSearch.Sql.Declaration
import TableSearch.Sql.Like

/-!
# Tables of a database

A table has declared columns and numbered rows. Names of columns are resolved up to the case of
ASCII letters, before any row is touched; a quoted name that no column has is read as a text.
Conditions have three truth values: what involves null is unknown, and a row is kept only where all
terms are true. Writing keeps the constraints of the columns or changes nothing.
-/
namespace TableSearch.Sql

/-- A table: its columns, and the cells of every row in their order. -/
structure Table where
  columns : List ColumnDef
  rows : Dict Int64 (List Cell) := .empty
  deriving DecidableEq, Inhabited

/-- What a name in a statement stands for. -/
inductive Reference where
  | column (index : Nat)
  /-- The number of the row. -/
  | number
  /-- The name itself as a text. -/
  | constant (text : String)
  deriving DecidableEq, Repr, Inhabited

/-- A row of a table. -/
structure Record where
  number : Int64
  cells : List Cell
  deriving DecidableEq, Inhabited

namespace Record

def get (r : Record) : Reference → Cell
  | .column i => r.cells.getD i .null
  | .number => .integer r.number
  | .constant text => .ofString text

end Record

namespace Table

/-- The names that stand for the number of a row, where no column has them. -/
def numberNames : List String := ["rowid", "oid", "_rowid_"]

/-- What a name to write to stands for. -/
def resolve? (t : Table) (name : String) : Option Reference :=
  match t.columns.findIdx? fun c => Text.eqIgnoringAsciiCase c.name name with
  | some i => some (.column i)
  | none => if numberNames.any (Text.eqIgnoringAsciiCase name) then some .number else none

/-- What a name to read stands for. -/
def resolve (t : Table) (name : String) : Reference := (t.resolve? name).getD (.constant name)

def affinity (t : Table) : Reference → Affinity
  | .column i => ((t.columns[i]?).map (·.affinity)).getD .blob
  | .number => .integer
  | .constant _ => .blob

def records (t : Table) : List Record := t.rows.toList.map fun (number, cells) => ⟨number, cells⟩

end Table

/-- Truth, or nothing where it is not known. -/
abbrev Truth := Option Bool

namespace Truth

/-- True if both are, false if one is. -/
def and : Truth → Truth → Truth
  | some false, _ => some false
  | _, some false => some false
  | some true, b => b
  | none, _ => none

/-- True if one is, false if both are. -/
def or (a b : Truth) : Truth := (and (a.map not) (b.map not)).map not

end Truth

/-- How a cell compares with a value; not known where one of them is null. -/
def compareCells (affinity : Affinity) (cell value : Cell) : Option Ordering :=
  if cell.isNull || value.isNull then none else some (cell.order (affinity.operand value))

/-- The truth of a comparison. -/
def comparisonTruth (affinity : Affinity) (cell value : Cell) (c : Comparison) : Truth :=
  (compareCells affinity cell value).map fun o =>
    match c with
    | .equal => o == .eq
    | .different => o != .eq
    | .greater => o == .gt
    | .less => o == .lt

def memberTruth (affinity : Affinity) (cell : Cell) (values : List Cell) : Truth :=
  values.foldr (fun v truth => Truth.or (comparisonTruth affinity cell v .equal) truth) (some false)

/-- The characters that the LIKE operator sees of bytes: those before a null character. -/
def likeChars (bytes : List UInt8) : List Char := (Text.Utf8.decode bytes).takeWhile (· != '\x00')

def likeTruth (cell pattern : Cell) : Truth :=
  if cell.isNull || pattern.isNull then none
  else some (like LikePattern.escapeChar (likeChars pattern.toBytes) (likeChars cell.toBytes))

/-- The truth of a term for a cell of a column, the values taking the places of the question
marks. -/
def Term.truth (affinity : Affinity) (cell : Cell) (values : List Cell) : Term → Truth
  | .compare _ c =>
    match values with
    | [v] => comparisonTruth affinity cell v c
    | _ => none
  | .between _ =>
    match values with
    | [low, high] =>
      Truth.and ((comparisonTruth affinity cell low .less).map not)
        ((comparisonTruth affinity cell high .greater).map not)
    | _ => none
  | .member _ _ negate => (memberTruth affinity cell values).map (· != negate)
  | .like _ negate =>
    match values with
    | [pattern] => (likeTruth cell pattern).map (· != negate)
    | _ => none
  | .constant truth => some truth

def Term.column? : Term → Option String
  | .compare column _ => some column
  | .between column => some column
  | .member column .. => some column
  | .like column _ => some column
  | .constant _ => none

namespace Table

/-- The truth of a bound term for a row. A term without a column needs none of its cells. -/
def termTruth (t : Table) (r : Record) (b : BoundTerm) : Truth :=
  let values := b.values.map Cell.ofValue
  match b.term.column? with
  | some column =>
    let reference := t.resolve column
    b.term.truth (t.affinity reference) (r.get reference) values
  | none => b.term.truth .blob .null values

/-- Whether a row is kept by a clause: the conjunction of its terms is true. -/
def keeps (t : Table) (clause : Clause) (r : Record) : Bool :=
  (clause.map (t.termTruth r)).foldr Truth.and (some true) == some true

def hasKey (t : Table) (reference : Reference) (value : Cell) (r : Record) : Bool :=
  comparisonTruth (t.affinity reference) (r.get reference) value .equal == some true

def nextNumber (t : Table) : Int64 :=
  match t.rows.keys.getLast? with
  | some n => n + 1
  | none => 1

/-- Whether a row keeps the constraints of the columns, beside the rows of `others`. -/
def admits (t : Table) (others : List Record) (cells : List Cell) : Bool :=
  (List.range t.columns.length).all fun i =>
    match t.columns[i]? with
    | none => true
    | some c =>
      let cell := cells.getD i .null
      !(c.notNull && !c.isKey && cell.isNull) &&
        !(c.unique && !cell.isNull && others.any fun r => (r.get (.column i)).order cell == .eq)

def keyIndex? (t : Table) : Option Nat := t.columns.findIdx? (·.isKey)

/-- The number that a row is filed under: the cell of the key column, which has to be an integer. -/
def numberOf? (t : Table) (old : Int64) (cells : List Cell) : Option Int64 :=
  match t.keyIndex? with
  | none => some old
  | some i =>
    match cells.getD i .null with
    | .integer n => some n
    | _ => none

/-- Add a row with given cells; columns that are not named have their defaults. -/
def insert? (t : Table) (values : List (String × Cell)) : Option Table := do
  let named ← values.mapM fun (name, cell) => (t.resolve? name).map fun r => (r, cell)
  let cells := (List.range t.columns.length).map fun i =>
    match t.columns[i]? with
    | none => Cell.null
    | some c => c.affinity.store ((named.reverse.lookup (.column i)).getD c.default)
  let cells := match t.keyIndex? with
    | some i => if (cells.getD i .null).isNull then cells.set i (.integer t.nextNumber) else cells
    | none => cells
  let number ← t.numberOf? t.nextNumber cells
  if (t.rows.contains number) || !t.admits t.records cells then none
  else some { t with rows := t.rows.insert number cells }

/-- The row after assignments; the last of two for one column counts. An assignment to the number
of a row is one to the key column. -/
def assigned (t : Table) (assignments : List (Reference × Cell)) (r : Record) : Record :=
  assignments.foldl (fun r (reference, cell) =>
    match reference, t.keyIndex? with
    | .column i, _ => { r with cells := r.cells.set i ((t.affinity reference).store cell) }
    | .number, some i => { r with cells := r.cells.set i (Affinity.integer.store cell) }
    | .number, none =>
      match Affinity.integer.store cell with
      | .integer n => { r with number := n }
      | _ => r
    | .constant _, _ => r) r

/-- Replace a row by another, which may have another number. -/
def replace? (t : Table) (old : Int64) (r : Record) : Option Table := do
  let number ← t.numberOf? r.number r.cells
  let rest := t.rows.erase old
  if rest.contains number || !t.admits (Table.records { t with rows := rest }) r.cells then none
  else some { t with rows := rest.insert number r.cells }

/-- Change all rows that satisfy `chosen`; gives the number of them, or nothing if a constraint
would be broken. -/
def update? (t : Table) (assignments : List (Reference × Cell)) (chosen : Record → Bool) :
    Option (Nat × Table) := do
  let targets := t.records.filter chosen
  let t ← targets.foldlM (fun t r => t.replace? r.number (t.assigned assignments r)) t
  return (targets.length, t)

/-- Remove all rows that satisfy `chosen`; gives the number of them. -/
def delete (t : Table) (chosen : Record → Bool) : Nat × Table :=
  let targets := t.records.filter chosen
  (targets.length, { t with rows := targets.foldl (fun rows r => rows.erase r.number) t.rows })

end Table

end TableSearch.Sql
