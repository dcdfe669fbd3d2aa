import TableSearch.Engine
import TableSearch.Filter.Json
import TableSearch.Json.Reader
import TableSearch.Report

/-!
# Commands

What an operator asks of the engine on the command line, and the text that is printed as the
answer. An error has several texts, the most general first.
-/
namespace TableSearch

/-- How a phrase is given on the command line. -/
structure PhraseArguments where
  pattern : String
  regex : Bool := false
  ignoreCase : Bool := false
  deriving DecidableEq, Repr, Inhabited

def PhraseArguments.phrase (a : PhraseArguments) : Phrase :=
  { pattern := a.pattern, regex := a.regex, ignoreCase := a.ignoreCase }

/-- A command on registered sources. -/
inductive Command where
  | sources
  | schema (source : String)
  | search (sources : List String) (phrase : Option PhraseArguments) (filters : List String)
      (limit : Option Int64) (offset : Int64)
  | get (source : String) (rowId : Int64)
  | suggest (source column partialText : String)
  | preload (source filter : String)
  | save (source : String) (rowId : Int64) (pairs : List (String × String)) (dryRun : Bool)
  | delete (source : String) (rowId : Int64) (dryRun : Bool)
  | replace (source : String) (rowId : Int64) (phrase : PhraseArguments) (replacement : String)
      (dryRun : Bool)
  deriving DecidableEq, Repr, Inhabited

/-- Why a command failed. -/
inductive CommandError where
  | engine (error : EngineError)
  | filterText (text : String)
  | rowNotFound (source : String) (rowId : Int64)
  | save (source : String) (rowId : Int64) (error : EngineError)
  | delete (source : String) (rowId : Int64) (error : EngineError)
  | replace (source : String) (rowId : Int64) (error : EngineError)
  deriving DecidableEq, Repr, Inhabited

/-- The texts of a command error, the most general first. -/
def CommandError.texts : CommandError → List String
  | engine e => [e.message]
  | filterText s => ["Invalid filter JSON: " ++ s]
  | rowNotFound source rowId => [Report.rowName source rowId ++ " not found"]
  | save source rowId e => ["Failed to save " ++ Report.rowName source rowId, e.message]
  | delete source rowId e => ["Failed to delete " ++ Report.rowName source rowId, e.message]
  | replace source rowId e => ["Failed to replace in " ++ Report.rowName source rowId, e.message]

def Filter.ofText? (s : String) : Option Filter := (Json.read? s).bind ofJson?

namespace Command

/-- The filters of texts, or the first text that is none. -/
def filters : List String → Except CommandError (List Filter)
  | [] => .ok []
  | s :: rest =>
    match Filter.ofText? s with
    | none => .error (.filterText s)
    | some f => (filters rest).map (f :: ·)

/-- The column and the value of an assignment `column=value`: the first equality sign parts them. -/
def assignment? (s : String) : Option (String × String) :=
  let column := s.toList.takeWhile (· != '=')
  match s.toList.drop column.length with
  | [] => none
  | _ :: value => some (String.ofList column, String.ofList value)

/-- A value as it is typed: an integer if it reads as one. -/
def typedValue (s : String) : Value :=
  match Text.readInt64? s with
  | some n => .integer n
  | none => .text s

/-- The changes of pairs of column and text; of two for one column the later counts. -/
def changes (pairs : List (String × String)) : Changes :=
  .ofList (pairs.map fun (column, s) => (column, typedValue s))

variable {σ : Type} [Store σ]

/-- Run a command; gives the lines that are printed. -/
def run (e : Engine) : Command → Access (Session σ) CommandError (List String)
  | sources => return Report.sources e.registry.entries
  | schema source =>
    match e.schema source with
    | .ok s => return Report.schema s
    | .error error => throw (.engine error)
  | search names phrase texts limit offset => do
    let filters ← filters texts
    let request := { phrase := phrase.map (·.phrase), filters, limit, offset }
    return Report.pages (← Session.onStore ((e.searchMany names request).mapError .engine))
  | get source rowId => do
    match ← Session.onStore ((e.row? source rowId).mapError .engine) with
    | some h => return Report.hit 1 h
    | none => throw (.rowNotFound source rowId)
  | suggest source column partialText => do
    let found ← Session.onStore ((e.suggest source column partialText).mapError .engine)
    return Report.suggestions found
  | preload source filter => do
    match Filter.ofText? filter with
    | none => throw (.filterText filter)
    | some f =>
      return Report.preloaded (← Session.onStore ((e.preload source f).mapError .engine))
  | save source rowId pairs dryRun => do
    (e.save source rowId (changes pairs) dryRun).mapError (.save source rowId)
    return [Report.done "Saved" source rowId (e.gateFor dryRun)]
  | delete source rowId dryRun => do
    (e.delete source rowId dryRun).mapError (.delete source rowId)
    return [Report.done "Deleted" source rowId (e.gateFor dryRun)]
  | replace source rowId phrase replacement dryRun => do
    let phrase := { phrase.phrase with replacement := some replacement }
    let changed ← (e.replace source rowId phrase dryRun).mapError (.replace source rowId)
    return Report.replaced source rowId (e.gateFor dryRun) changed

end Command

end TableSearch
