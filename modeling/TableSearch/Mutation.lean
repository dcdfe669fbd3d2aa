import TableSearch.Phrase
import TableSearch.Source

/-!
# Saving, deleting and replacing

Every change takes the same way: the changes that the source takes, the row, an audit entry, the
gate, the store. The entry is written before the gate is asked, so with a closed gate a session has
the trail of a real write and an untouched store. A save reads in one step and writes in another;
other changes may come between the two.
-/
namespace TableSearch

/-- Whether changes are written or only audited. -/
inductive Gate where
  | allowed
  | denied
  deriving DecidableEq, Repr, Inhabited

def Gate.ofBool (allow : Bool) : Gate := if allow then .allowed else .denied

/-- One audited attempt to change a row. A delete has no changes. -/
structure AuditEntry where
  action : String
  source : String
  rowId : Int64
  changes : Changes := .empty
  deriving DecidableEq, Inhabited

/-- A store together with the audit entries so far, the oldest first. -/
structure Session (σ : Type) where
  store : σ
  audit : List AuditEntry := []
  deriving DecidableEq, Inhabited

namespace Session

variable {σ δ ε α : Type}

/-- Run a computation on the store of a session. -/
def onStore (a : Access σ ε α) : Access (Session σ) ε α := fun s =>
  let (r, store) := a.attempt s.store
  (r, { s with store })

/-- Run a computation on the store of a session and hand its error over as a value. -/
def call (a : Access σ δ α) : Access (Session σ) ε (Except δ α) := fun s =>
  let (r, store) := a.attempt s.store
  (.ok r, { s with store })

def record (entry : AuditEntry) : Access (Session σ) ε Unit := fun s =>
  (.ok (), { s with audit := s.audit ++ [entry] })

end Session

namespace Source

variable {σ : Type} [Store σ]

def saveEntry (s : Source) (rowId : Int64) (changes : Changes) : AuditEntry :=
  ⟨s.saveAction, s.name, rowId, s.accepted changes⟩

def deleteEntry (s : Source) (rowId : Int64) : AuditEntry :=
  { action := s.deleteAction, source := s.name, rowId }

/-- The first step of a save: fetch the row. If the source takes none of the changes there is
nothing to write, and no row is asked for. -/
def saveFetch (s : Source) (rowId : Int64) (changes : Changes) :
    Access (Session σ) SourceError (Option Row) := do
  if (s.accepted changes).isEmpty then return none
  match ← Session.call (Store.fetch s.table rowId) with
  | .ok (some row) => return some row
  | _ => throw (.updateFailed s.noun)

/-- The second step of a save: audit the changes and write them, if a row was fetched. -/
def saveUpdate (s : Source) (gate : Gate) (rowId : Int64) (changes : Changes) :
    Option Row → Access (Session σ) SourceError Unit
  | none => return ()
  | some row => do
    Session.record (s.saveEntry rowId changes)
    match gate with
    | .denied => return ()
    | .allowed =>
      match ← Session.call (Store.update s.table ⟨row.id, s.accepted changes⟩) with
      | .ok true => return ()
      | _ => throw (.updateFailed s.noun)

/-- Write changes to a row. -/
def save (s : Source) (gate : Gate) (rowId : Int64) (changes : Changes) :
    Access (Session σ) SourceError Unit :=
  s.saveFetch rowId changes >>= s.saveUpdate gate rowId changes

def delete (s : Source) (gate : Gate) (rowId : Int64) : Access (Session σ) SourceError Unit := do
  Session.record (s.deleteEntry rowId)
  match gate with
  | .denied => return ()
  | .allowed =>
    match ← Session.call (Store.delete s.table rowId) with
    | .ok true => return ()
    | _ => throw (.deleteFailed s.noun)

/-- The cells that a phrase changes in the given columns of a row. -/
def replacements (f : Finder) (row : Row) : List Column → Except FilterError Changes
  | [] => .ok .empty
  | c :: cs => do
    let rest ← replacements f row cs
    let cell := row.get c.id
    if cell.isNull then return rest
    let replaced ← f.replaceAll cell.display
    if replaced = cell.display then return rest
    else return rest.insert c.id (.text replaced)

/-- Apply the replacement of a phrase to the searched columns of a row that may be changed, and
save what it changed. -/
def replace (s : Source) (gate : Gate) (rowId : Int64) (phrase : Phrase) :
    Access (Session σ) SourceError Changes := do
  match phrase.compile with
  | .error e => throw (.filter e)
  | .ok f =>
    if f.replacement.isNone then throw (.filter .missingReplacement)
    match ← Session.call (Store.fetch s.table rowId) with
    | .ok (some row) =>
      match replacements f row (s.schema.globalColumns.filter (·.modify)) with
      | .error e => throw (.filter e)
      | .ok changes =>
        if changes.isEmpty then return changes
        s.save gate rowId changes
        return changes
    | _ => throw (.updateFailed s.noun)

end Source

end TableSearch
