import TableSearch.Config
import TableSearch.Mutation
import TableSearch.Page

/-!
# The engine

The operations that callers use: every one resolves a source by name, an unknown name being an
error of its own. A dry run closes the gate for one call.
-/
namespace TableSearch

/-- The registered sources and the settings that hold for all of them. -/
structure Engine where
  registry : Registry
  gate : Gate
  search : SearchSetup := {}
  deriving Inhabited

/-- Why an engine operation failed. -/
inductive EngineError where
  | unknownSource (name : String)
  | source (error : SourceError)
  deriving DecidableEq, Repr, Inhabited

namespace EngineError

def message : EngineError → String
  | unknownSource name => "no source registered with name: " ++ name
  | source e => e.message

/-- The code that callers tell errors apart by. -/
def code : EngineError → String
  | unknownSource _ => "searchregex_source"
  | source e => e.code

def status? : EngineError → Option Nat
  | unknownSource _ => some 404
  | source e => e.status?

end EngineError

namespace Engine

def ofConfig (c : Config) : Except NameTaken Engine := do
  return { registry := ← c.registry, gate := .ofBool c.allowWrite, search := c.search }

def source (e : Engine) (name : String) : Except EngineError Source :=
  match e.registry.get? name with
  | some s => .ok s
  | none => .error (.unknownSource name)

def schema (e : Engine) (name : String) : Except EngineError Schema :=
  (e.source name).map (·.schema)

def gateFor (e : Engine) (dryRun : Bool) : Gate := if dryRun then .denied else e.gate

variable {σ : Type} [Store σ]

/-- Search a source; a request without a limit has that of the settings. -/
def searchOne (e : Engine) (name : String) (request : Request) : Access σ EngineError Page := do
  let s ← e.source name
  let request := { request with limit := some (request.limit.getD e.search.pageSize) }
  (Page.search s request e.search.batchSize).mapError .source

def unknown? (e : Engine) (names : List String) : Option String :=
  names.find? fun name => (e.registry.get? name).isNone

/-- The names of the selected sources, in the order of registration; no names select all. -/
def selected (e : Engine) (names : List String) : List String :=
  (e.registry.sources.map (·.name)).filter fun name => names.isEmpty || names.contains name

def searchEach (e : Engine) (request : Request) : List String → Access σ EngineError (List Page)
  | [] => pure []
  | name :: names => do
    let page ← e.searchOne name request
    return page :: (← searchEach e request names)

/-- Search several sources, one page for each. -/
def searchMany (e : Engine) (names : List String) (request : Request) :
    Access σ EngineError (List Page) :=
  match e.unknown? names with
  | some name => throw (.unknownSource name)
  | none => e.searchEach request (e.selected names)

def suggest (e : Engine) (name column partialText : String) :
    Access σ EngineError (List Suggestion) := do
  let s ← e.source name
  (s.suggest column partialText).mapError .source

def preload (e : Engine) (name : String) (f : Filter) : Access σ EngineError (List PreloadItem) := do
  let s ← e.source name
  (s.preload f).mapError .source

/-- What a result shows of one row, if it exists. -/
def row? (e : Engine) (name : String) (rowId : Int64) : Access σ EngineError (Option Hit) := do
  let s ← e.source name
  match ← (Store.fetch s.table rowId).mapError fun error => .source (.backend error) with
  | none => return none
  | some row => do
    let hit ← (Hit.ofRow s row none : StateM σ Hit)
    return some hit

def save (e : Engine) (name : String) (rowId : Int64) (changes : Changes) (dryRun : Bool) :
    Access (Session σ) EngineError Unit := do
  let s ← e.source name
  (s.save (e.gateFor dryRun) rowId changes).mapError .source

def delete (e : Engine) (name : String) (rowId : Int64) (dryRun : Bool) :
    Access (Session σ) EngineError Unit := do
  let s ← e.source name
  (s.delete (e.gateFor dryRun) rowId).mapError .source

def replace (e : Engine) (name : String) (rowId : Int64) (phrase : Phrase) (dryRun : Bool) :
    Access (Session σ) EngineError Changes := do
  let s ← e.source name
  (s.replace (e.gateFor dryRun) rowId phrase).mapError .source

end Engine

end TableSearch
