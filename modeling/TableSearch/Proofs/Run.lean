import TableSearch.Proofs.Mutation
import TableSearch.Proofs.PageSpec
import TableSearch.Proofs.Reading

/-!
# Runs of calls

An engine is asked one call after the other, some that change a row and some that only read. A call
that changes a row does what its source does with the gate of the call; one that names no source
fails and does nothing.
-/
namespace TableSearch

/-- What can be done to a row. -/
inductive Edit where
  | save (changes : Changes)
  | delete
  | replace (phrase : Phrase)

/-- A call that changes a row. -/
structure Mutation where
  source : String
  rowId : Int64
  edit : Edit
  dryRun : Bool := false

/-- A call of an engine. -/
inductive Call where
  | mutate (m : Mutation)
  | search (source : String) (request : Request)
  | searchMany (sources : List String) (request : Request)
  | suggest (source column partialText : String)
  | preload (source : String) (f : Filter)
  | row (source : String) (rowId : Int64)

section Performing

variable {σ : Type} [Store σ]

/-- Do something to a row of a source. Only a replacement reports changes. -/
def Source.perform (s : Source) (gate : Gate) (rowId : Int64) :
    Edit → Access (Session σ) SourceError (Option Changes)
  | .save changes => (fun _ => none) <$> s.save gate rowId changes
  | .delete => (fun _ => none) <$> s.delete gate rowId
  | .replace phrase => some <$> s.replace gate rowId phrase

namespace Engine

def mutate (e : Engine) (m : Mutation) : Access (Session σ) EngineError (Option Changes) :=
  match m.edit with
  | .save changes => (fun _ => none) <$> e.save m.source m.rowId changes m.dryRun
  | .delete => (fun _ => none) <$> e.delete m.source m.rowId m.dryRun
  | .replace phrase => some <$> e.replace m.source m.rowId phrase m.dryRun

/-- The session after a call. -/
def after (e : Engine) (before : Session σ) : Call → Session σ
  | .mutate m => (e.mutate m before).2
  | .search source request => (Session.onStore (e.searchOne source request) before).2
  | .searchMany sources request => (Session.onStore (e.searchMany sources request) before).2
  | .suggest source column partialText =>
    (Session.onStore (e.suggest source column partialText) before).2
  | .preload source f => (Session.onStore (e.preload source f) before).2
  | .row source rowId => (Session.onStore (e.row? source rowId) before).2

variable {e : Engine} {m : Mutation}

theorem mutate_of_unknown (h : e.registry.get? m.source = none) (before : Session σ) :
    e.mutate m before = (.error (.unknownSource m.source), before) := by
  have hsource : e.source m.source = .error (.unknownSource m.source) := by
    unfold source
    rw [h]
  unfold mutate
  cases m.edit <;>
    simp only [save, delete, replace, hsource] <;> rfl

theorem mutate_of_known {s : Source} (h : e.registry.get? m.source = some s) (before : Session σ) :
    e.mutate m before =
      ((s.perform (e.gateFor m.dryRun) m.rowId m.edit before).1.mapError .source,
        (s.perform (e.gateFor m.dryRun) m.rowId m.edit before).2) := by
  have hsource : e.source m.source = .ok s := by
    unfold source
    rw [h]
  have hfound {α : Type} (f : Source → Access (Session σ) EngineError α) :
      (liftM (Except.ok s : Except EngineError Source) >>= f) before = f s before :=
    Access.bind_ok rfl
  unfold mutate
  cases m.edit with
  | save changes =>
    simp only [Access.map_apply, Source.perform, save, hsource, hfound, Access.mapError_apply]
    cases (s.save (e.gateFor m.dryRun) m.rowId changes before).1 <;> rfl
  | delete =>
    simp only [Access.map_apply, Source.perform, delete, hsource, hfound, Access.mapError_apply]
    cases (s.delete (e.gateFor m.dryRun) m.rowId before).1 <;> rfl
  | replace phrase =>
    simp only [Access.map_apply, Source.perform, replace, hsource, hfound, Access.mapError_apply]
    cases (s.replace (e.gateFor m.dryRun) m.rowId phrase before).1 <;> rfl

end Engine

end Performing

def Engine.sample : Engine := { registry := ⟨[Page.sampleSource], by decide⟩, gate := .allowed }

end TableSearch
