import TableSearch.Source

/-!
# Labels, suggestions and preloaded keys

The rules of a source applied to a store. A label never fails: where a look-up does, the label is
that of the options. Suggestions and preloaded keys hand store errors on.
-/
namespace TableSearch

def suggestionLimit : Nat := 50

variable {σ : Type} [Store σ]

/-- The label of a value of a column. -/
def Source.labelOf (s : Source) (c : Column) (v : Value) : StateM σ String :=
  match s.labelRule c with
  | .raw => pure v.display
  | .options => pure (c.staticLabel v)
  | .renamed text label => pure (if v = .text text then label else c.staticLabel v)
  | .lookup labels => do
    match ← (Store.lookup labels v).attempt with
    | .ok (some label) => pure label
    | _ => pure (c.staticLabel v)

def ForeignKey.suggest (labels : ForeignKey) (partialText : String) :
    Access σ StoreError (List Suggestion) :=
  Store.suggest labels ⟨.anywhere, partialText⟩ suggestionLimit

/-- The labelled keys among those given; keys without a label are left out. -/
def ForeignKey.preload (labels : ForeignKey) (column : String) :
    List Value → Access σ StoreError (List PreloadItem)
  | [] => pure []
  | key :: keys => do
    let label ← Store.lookup labels key
    let items ← preload labels column keys
    match label with
    | some label => return .of label column key :: items
    | none => return items

namespace Source

/-- Suggestions for a column while `partialText` is typed; an unknown column has none. -/
def suggest (s : Source) (column partialText : String) : Access σ SourceError (List Suggestion) :=
  match (s.schema.column? column).bind s.suggestRule with
  | none => pure []
  | some labels => do
    let found ← (labels.suggest partialText).mapError .backend
    return found.take suggestionLimit

/-- The labels of the keys of a filter. Only membership filters on columns that ask for it have
labelled keys. -/
def preload (s : Source) (f : Filter) : Access σ SourceError (List PreloadItem) :=
  match s.schema.column? f.column with
  | none => pure []
  | some c =>
    if c.preload && f.logic.isMembership then
      match s.preloadRule c with
      | .nothing => pure []
      | .options => pure (f.values.map fun v => .of (c.staticLabel v) c.id v)
      | .lookup labels => (labels.preload c.id f.values).mapError .backend
    else pure []

end Source

end TableSearch
