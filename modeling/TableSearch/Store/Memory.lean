import TableSearch.Store

/-!
# Tables in memory

Every table is a dictionary of rows by id, so rows come in the order of their ids. A table that
was never written to is empty. No operation fails.
-/
namespace TableSearch

abbrev Rows := Dict Int64 Row

/-- Tables by name. -/
structure Memory where
  tables : Dict String Rows := .empty
  deriving DecidableEq, Inhabited

namespace Memory

def rows (m : Memory) (table : String) : Rows := (m.tables.get? table).getD .empty

def count (m : Memory) (table : String) : Nat := (m.rows table).size

/-- Put a row into a table in place of one with its id; the id is written into the row as well. -/
def insert (m : Memory) (table : TableRef) (row : Row) : Memory :=
  let row := { row with cells := row.cells.insert table.idColumn (.integer row.id) }
  { tables := m.tables.insert table.name ((m.rows table.name).insert row.id row) }

/-- The rows that satisfy all conditions, by id. -/
def matching (m : Memory) (table : String) (conditions : List Condition) : List Row :=
  (m.rows table).values.filter fun row => conditions.all (·.accepts row)

def select (m : Memory) (table : TableRef) (conditions : List Condition) (limit offset : Int) :
    List Row :=
  ((m.matching table.name conditions).drop offset.toNat).take limit.toNat

def fetch (m : Memory) (table : TableRef) (id : Int64) : Option Row := (m.rows table.name).get? id

def lookup (m : Memory) (labels : ForeignKey) (key : Value) : Option String :=
  match (m.rows labels.table).values.find?
      fun row => (row.get labels.key).looseEq key && !key.isNull with
  | none => none
  | some row =>
    let label := row.get labels.label
    if label.isNull then none else some label.display

/-- The order of suggestions: by label, then by key, where keys without an order count as equal. -/
def suggestionOrder (a b : Suggestion) : Ordering :=
  (compare a.label b.label).then ((a.key.order b.key).getD .eq)

/-- Put a suggestion into a list in descending order, after those that are greater. -/
def insertDescending (s : Suggestion) : List Suggestion → List Suggestion
  | [] => [s]
  | t :: ts => if suggestionOrder s t == .lt then t :: insertDescending s ts else s :: t :: ts

/-- Sort suggestions, inserting one after the other from the end; equal ones keep their order. -/
def sortSuggestions (l : List Suggestion) : List Suggestion :=
  (l.foldl (fun sorted s => insertDescending s sorted) []).reverse

/-- Drop what equals its predecessor. -/
def dropRepeats : List Suggestion → List Suggestion
  | a :: b :: rest => if a = b then dropRepeats (b :: rest) else a :: dropRepeats (b :: rest)
  | l => l

/-- The key and label of every row whose label satisfies a pattern. -/
def offers (m : Memory) (labels : ForeignKey) (pattern : LikePattern) : List Suggestion :=
  ((m.rows labels.table).values.filter fun row =>
    let label := row.get labels.label
    !label.isNull && pattern.accepts label.display).map fun row =>
      ⟨row.get labels.key, (row.get labels.label).display⟩

/-- The first suggestions in order, repeated neighbours once. -/
def suggest (m : Memory) (labels : ForeignKey) (pattern : LikePattern) (limit : Int) :
    List Suggestion :=
  (dropRepeats (sortSuggestions (m.offers labels pattern))).take limit.toNat

/-- Write cells of a row, except the one in the column that identifies it. -/
def write (row : Row) (idColumn : String) (changes : Changes) : Row :=
  { row with cells := row.cells.insertAll (changes.filter fun c _ => c != idColumn).toList }

/-- Write cells of an existing row; whether there is one. -/
def update (m : Memory) (table : TableRef) (row : Row) : Bool × Memory :=
  match m.fetch table row.id with
  | none => (false, m)
  | some existing =>
    let rows := (m.rows table.name).insert row.id (write existing table.idColumn row.cells)
    (true, { tables := m.tables.insert table.name rows })

/-- Remove a row; whether there was one. -/
def delete (m : Memory) (table : TableRef) (id : Int64) : Bool × Memory :=
  match m.fetch table id with
  | none => (false, m)
  | some _ =>
    (true, { tables := m.tables.insert table.name ((m.rows table.name).erase id) })

instance : Store Memory where
  select table conditions limit offset := .ofRead fun m =>
    .ok (m.select table conditions limit offset)
  fetch table id := .ofRead fun m => .ok (m.fetch table id)
  lookup labels key := .ofRead fun m => .ok (m.lookup labels key)
  suggest labels pattern limit := .ofRead fun m => .ok (m.suggest labels pattern limit)
  update table row := fun m =>
    let (found, m) := m.update table row
    (.ok found, m)
  delete table id := fun m =>
    let (found, m) := m.delete table id
    (.ok found, m)

end Memory

end TableSearch
