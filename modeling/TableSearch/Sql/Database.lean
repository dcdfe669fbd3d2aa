import TableSearch.Sql.Table
import TableSearch.Store

/-!
# A database as a store

Tables by name, up to the case of ASCII letters. The store operations resolve the table and the
columns first; what cannot be resolved is an error, as is a write that would break a constraint.
-/
namespace TableSearch.Sql

/-- The tables of a database by folded name. -/
structure Database where
  tables : Dict String Table := .empty
  deriving DecidableEq, Inhabited

namespace Database

/-- The name that a table is filed under. -/
def folded (name : String) : String := String.ofList (Text.foldAscii name)

def table? (d : Database) (name : String) : Option Table := d.tables.get? (folded name)

def put (d : Database) (name : String) (t : Table) : Database :=
  ⟨d.tables.insert (folded name) t⟩

def create (d : Database) (name : String) (columns : List ColumnDef) : Database :=
  if (d.table? name).isSome then d else d.put name { columns }

def insert? (d : Database) (name : String) (values : List (String × Cell)) : Option Database := do
  return d.put name (← (← d.table? name).insert? values)

/-- A row as callers see it: every column under its declared name, the id being the integer in the
column of exactly the given name. -/
def row (t : Table) (idColumn : String) (r : Record) : Except StoreError Row :=
  let names := t.columns.map (·.name)
  let cells : Cells := .ofList (names.zip (r.cells.map Cell.toValue))
  match (cells.get? idColumn).bind Value.toInteger? with
  | some id => .ok ⟨id, cells⟩
  | none => .error (.missingId idColumn)

/-- The rows of a list as callers see them. -/
def rows (t : Table) (idColumn : String) : List Record → Except StoreError (List Row)
  | [] => .ok []
  | r :: rs => do
    let first ← row t idColumn r
    return first :: (← rows t idColumn rs)

/-- A page of a list; a negative limit is none. -/
def page (limit offset : Int) (l : List α) : List α :=
  let l := l.drop offset.toNat
  if limit < 0 then l else l.take limit.toNat

/-- The rows that a clause keeps, in the order of a column. -/
def selection (t : Table) (idColumn : String) (clause : Clause) : List Record :=
  let reference := t.resolve idColumn
  (t.records.filter (t.keeps clause)).mergeSort fun a b =>
    (a.get reference).order (b.get reference) != .gt

def select (d : Database) (table : TableRef) (conditions : List Condition) (limit offset : Int) :
    Except StoreError (List Row) :=
  match Clause.ofConditions conditions with
  | .error column => .error (.notEvaluable column)
  | .ok clause =>
    match d.table? table.name with
    | none => .error (.select table.name)
    | some t => rows t table.idColumn (page limit offset (selection t table.idColumn clause))

/-- The first row with an id. -/
def fetch (d : Database) (table : TableRef) (id : Int64) : Except StoreError (Option Row) :=
  match d.table? table.name with
  | none => .error (.fetch table.name id)
  | some t =>
    match t.records.find? (t.hasKey (t.resolve table.idColumn) (.integer id)) with
    | none => .ok none
    | some r => (row t table.idColumn r).map some

/-- The table of labels with the references of a key and its label. -/
def keyAndLabel? (d : Database) (labels : ForeignKey) : Option (Table × Reference × Reference) := do
  let t ← d.table? labels.table
  return (t, t.resolve labels.key, t.resolve labels.label)

def lookup (d : Database) (labels : ForeignKey) (key : Value) :
    Except StoreError (Option String) :=
  if key.isNull then .ok none
  else
    match d.keyAndLabel? labels with
    | none => .error (.lookup labels.table key)
    | some (t, keyColumn, labelColumn) =>
      match t.records.find? (t.hasKey keyColumn (.ofValue key)) with
      | none => .ok none
      | some r =>
        match (r.get labelColumn).toValue with
        | .null => .ok none
        | label => .ok (some label.display)

/-- Whether two pairs of cells are the same in the order of cells. -/
def samePair (a b : Cell × Cell) : Bool := a.1.order b.1 == .eq && a.2.order b.2 == .eq

/-- The pairs of a list, each once, but those in `seen`. -/
def distinct (seen : List (Cell × Cell)) : List (Cell × Cell) → List (Cell × Cell)
  | [] => []
  | p :: ps => if seen.any (samePair p) then distinct seen ps else p :: distinct (p :: seen) ps

/-- The order of suggestions: by label, then by key. -/
def pairOrder (a b : Cell × Cell) : Ordering := (a.2.order b.2).then (a.1.order b.1)

/-- The first distinct pairs of key and label whose label satisfies a pattern, in order. -/
def suggest (d : Database) (labels : ForeignKey) (pattern : LikePattern) (limit : Int) :
    Except StoreError (List Suggestion) :=
  match d.keyAndLabel? labels with
  | none => .error (.suggest labels.table labels.label)
  | some (t, keyColumn, labelColumn) =>
    let operand := Cell.ofString pattern.operand
    let found := t.records.filter fun r => likeTruth (r.get labelColumn) operand == some true
    let pairs := distinct [] (found.map fun r => (r.get keyColumn, r.get labelColumn))
    let sorted := pairs.mergeSort fun a b => pairOrder a b != .gt
    .ok ((page limit 0 sorted).map fun (key, label) => ⟨key.toValue, label.toValue.display⟩)

/-- Write cells of the rows with an id. Without cells to write, this only looks for a row. -/
def update (d : Database) (table : TableRef) (row : Row) : Except StoreError (Bool × Database) :=
  let changes := (row.cells.filter fun c _ => c != table.idColumn).toList
  if changes.isEmpty then do
    return ((← d.fetch table row.id).isSome, d)
  else
    let changed : Option (Nat × Table) := do
      let t ← d.table? table.name
      let key := t.resolve table.idColumn
      let assignments ← changes.mapM fun (c, v) => (t.resolve? c).map fun r => (r, Cell.ofValue v)
      t.update? assignments (t.hasKey key (.integer row.id))
    match changed with
    | none => .error (.update table.name row.id)
    | some (count, t) => .ok (count != 0, d.put table.name t)

def delete (d : Database) (table : TableRef) (id : Int64) : Except StoreError (Bool × Database) :=
  let deleted : Option (Nat × Table) := do
    let t ← d.table? table.name
    return t.delete (t.hasKey (t.resolve table.idColumn) (.integer id))
  match deleted with
  | none => .error (.delete table.name id)
  | some (count, t) => .ok (count != 0, d.put table.name t)

/-- A write as an operation of a store: a failed write leaves the database as it was. -/
def written (f : Database → Except StoreError (Bool × Database)) :
    Access Database StoreError Bool := fun d =>
  match f d with
  | .error e => (.error e, d)
  | .ok (found, d) => (.ok found, d)

instance : Store Database where
  select table conditions limit offset := .ofRead fun d => d.select table conditions limit offset
  fetch table id := .ofRead fun d => d.fetch table id
  lookup labels key := .ofRead fun d => d.lookup labels key
  suggest labels pattern limit := .ofRead fun d => d.suggest labels pattern limit
  update table row := written fun d => d.update table row
  delete table id := written fun d => d.delete table id

end Database

end TableSearch.Sql
