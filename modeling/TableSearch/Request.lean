import TableSearch.Filter.Compile
import TableSearch.Phrase

/-!
# Search requests and queries

A request is what a caller asks of one source: a phrase, filters, and a page. A query is a request
checked against a schema: conditions for the store, conditions for fetched rows, and the compiled
phrase.
-/
namespace TableSearch

/-- A search as a caller writes it. -/
structure Request where
  phrase : Option Phrase := none
  filters : List Filter := []
  /-- The most results of a page. -/
  limit : Option Int64 := none
  offset : Int64 := 0
  deriving DecidableEq, Repr, Inhabited

/-- A request checked against a schema. -/
structure Query where
  /-- What the store evaluates. -/
  native : List Condition := []
  /-- What is evaluated on fetched rows. -/
  post : List Condition := []
  finder : Option Finder := none
  deriving Inhabited

namespace Query

/-- Compile the filters on known columns, in order; those on unknown columns are dropped. -/
def conditions (schema : Schema) : List Filter → Except FilterError (List Condition)
  | [] => .ok []
  | f :: fs =>
    if (schema.column? f.column).isNone then conditions schema fs
    else do
      let c ← f.compile schema
      let cs ← conditions schema fs
      return c :: cs

/-- Compile a phrase; one with an empty pattern counts as none. -/
def finder? : Option Phrase → Except FilterError (Option Finder)
  | none => .ok none
  | some p => if p.pattern.isEmpty then .ok none else p.compile.map some

/-- Check a request against a schema. -/
def compile (schema : Schema) (request : Request) : Except FilterError Query := do
  let conditions ← conditions schema request.filters
  let finder ← finder? request.phrase
  return { native := conditions.filter (·.isNative), post := conditions.filter (!·.isNative), finder }

/-- Whether the store alone can answer the query. -/
def isNative (q : Query) : Bool := q.post.isEmpty && q.finder.isNone

/-- Whether a phrase occurs in some searched column of a row; an empty match counts. -/
def occurs (f : Finder) (schema : Schema) (row : Row) : Bool :=
  schema.globalColumns.any fun c =>
    let cell := row.get c.id
    !cell.isNull && f.isMatch cell.display

/-- Whether a fetched row satisfies what the store did not evaluate. -/
def accepts (q : Query) (schema : Schema) (row : Row) : Bool :=
  q.post.all (·.accepts row) &&
    match q.finder with
    | none => true
    | some f => occurs f schema row

end Query

end TableSearch
