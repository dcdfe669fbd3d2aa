import TableSearch.Hit
import TableSearch.Request

/-!
# Pages of results

A page holds the first hits from an offset on. If the store can evaluate the whole query, one
selection is the page. Otherwise rows are selected in batches and examined in turn, until the page
is full or the table ends. The page tells how many rows were read and where the next page begins.
-/
namespace TableSearch

/-- A page of hits of one source. -/
structure Page where
  source : String
  hits : List Hit
  /-- The number of rows that were read. -/
  scanned : Nat
  /-- Where the next page begins, if the page is full. -/
  next : Option Int64
  deriving DecidableEq, Repr, Inhabited

namespace Page

/-- The most results of a page that names no limit. -/
def defaultLimit : Int64 := 25

/-- An offset, if it is one that a request can name. -/
def offset? (n : Nat) : Option Int64 := Text.toInt64? n

/-- A number of rows to ask for: at least one. -/
def positive (n : Int64) : Nat := (max n.toInt 1).toNat

variable {σ : Type} [Store σ]

/-- The hit of a fetched row, if the row satisfies the query. -/
def hit? (s : Source) (q : Query) (row : Row) : StateM σ (Option Hit) :=
  if q.accepts s.schema row then do
    let hit ← Hit.ofRow s row q.finder
    return if q.finder.isSome && !hit.isMatched then none else some hit
  else pure none

/-- What examining rows gave: hits, the number of rows read, and whether enough hits were
found. -/
structure Findings where
  hits : List Hit := []
  read : Nat := 0
  full : Bool := false
  deriving DecidableEq, Repr, Inhabited

/-- Examine rows in turn until `want` hits are found, where `want` is not zero. -/
def examine (s : Source) (q : Query) (want : Nat) : List Row → StateM σ Findings
  | [] => pure {}
  | row :: rows => do
    match ← hit? s q row with
    | none =>
      let f ← examine s q want rows
      return { f with read := f.read + 1 }
    | some hit =>
      if want ≤ 1 then return ⟨[hit], 1, true⟩
      else
        let f ← examine s q (want - 1) rows
        return ⟨hit :: f.hits, f.read + 1, f.full⟩

/-- Select and examine batches from `cursor` on until `want` hits are found or a batch is not
full. The cursor grows by at least one with each batch and stays below `2 ^ 63`. -/
def scan (s : Source) (q : Query) (batch want cursor : Nat) (hb : 0 < batch) :
    Access σ SourceError Page := do
  let rows ← (Store.select s.table q.native batch cursor).mapError .backend
  let f ← (examine s q want rows : StateM σ Findings)
  if f.full then
    return ⟨s.name, f.hits, f.read, offset? (cursor + f.read)⟩
  else if _h : batch ≤ rows.length ∧ cursor + rows.length < 0x8000000000000000 then
    let page ← scan s q batch (want - f.hits.length) (cursor + rows.length) hb
    return { page with hits := f.hits ++ page.hits, scanned := f.read + page.scanned }
  else
    return ⟨s.name, f.hits, f.read, none⟩
termination_by 0x8000000000000000 - cursor
decreasing_by omega

/-- The hits of rows that satisfy the whole query already. -/
def hitsOf (s : Source) : List Row → StateM σ (List Hit)
  | [] => pure []
  | row :: rows => do
    let hit ← Hit.ofRow s row none
    return hit :: (← hitsOf s rows)

def ofSelection (s : Source) (q : Query) (limit offset : Nat) : Access σ SourceError Page := do
  let rows ← (Store.select s.table q.native limit offset).mapError .backend
  let hits ← (hitsOf s rows : StateM σ (List Hit))
  let next := if rows.length = limit then offset? (offset + limit) else none
  return ⟨s.name, hits, rows.length, next⟩

theorem positive_pos (n : Int64) : 0 < positive n := by
  simp only [positive]
  omega

/-- Search a source: the page that a request asks for. Batches have at least one row. -/
def search (s : Source) (request : Request) (batch : Int64) : Access σ SourceError Page := do
  match Query.compile s.schema request with
  | .error e => throw (.filter e)
  | .ok q =>
    let limit := positive (request.limit.getD defaultLimit)
    let offset := request.offset.toInt.toNat
    if q.isNative then ofSelection s q limit offset
    else scan s q (positive batch) limit offset (positive_pos batch)

end Page

end TableSearch
