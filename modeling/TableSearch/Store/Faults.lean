import TableSearch.Store

/-!
# Stores with faults

A store wrapped with a plan that says of each call, by its number and operation, whether it fails
or misses. A call with a fault does not reach the content. The plan can express any pattern of
faults over a run.
-/
namespace TableSearch

/-- What goes wrong with a call. -/
inductive Fault where
  /-- The call fails. -/
  | error
  /-- The call answers as if it found nothing. -/
  | miss
  deriving DecidableEq, Repr, Inhabited

/-- A store, the number of calls so far, and the fault of each call. -/
structure Faulty (σ : Type) where
  content : σ
  calls : Nat := 0
  plan : Nat → Operation → Option Fault := fun _ _ => none

namespace Faulty

variable {σ : Type}

/-- Count a call and let it go through, fail or miss. -/
def call (operation : Operation) (nothing : α) (go : Access σ StoreError α) :
    Access (Faulty σ) StoreError α := fun s =>
  let next := { s with calls := s.calls + 1 }
  match s.plan s.calls operation with
  | some .error => (.error (.injected operation), next)
  | some .miss => (.ok nothing, next)
  | none =>
    let (r, content) := go.attempt s.content
    (r, { next with content })

instance [Store σ] : Store (Faulty σ) where
  select table conditions limit offset :=
    call .select [] (Store.select table conditions limit offset)
  fetch table id := call .fetch none (Store.fetch table id)
  lookup labels key := call .lookup none (Store.lookup labels key)
  suggest labels pattern limit := call .suggest [] (Store.suggest labels pattern limit)
  update table row := call .update false (Store.update table row)
  delete table id := call .delete false (Store.delete table id)

end Faulty

end TableSearch
