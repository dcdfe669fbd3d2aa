import TableSearch.Engine
import TableSearch.Proofs.Assembly

/-!
# Reading leaves tables as they are

A sequence of steps that leave the state alone leaves it alone. Over a store in memory the searches,
suggestions, labels and single rows of an engine are made of such steps, whether they succeed or
fail, in batches of any size.
-/
namespace TableSearch

/-- A computation that leaves the state as it is. -/
def Reads {σ α : Type} (a : StateM σ α) : Prop := ∀ s, (a s).2 = s

/-- A computation that leaves the state as it is, whether it fails or not. -/
def Access.Reads {σ ε α : Type} (a : Access σ ε α) : Prop := ∀ s, (a s).2 = s

section Steps

variable {σ ε δ α β : Type}

theorem Reads.pure (x : α) : Reads (Pure.pure x : StateM σ α) := fun _ => rfl

theorem Reads.bind {a : StateM σ α} {f : α → StateM σ β} (ha : Reads a) (hf : ∀ x, Reads (f x)) :
    Reads (a >>= f) := by
  intro s
  change (f (a s).1 (a s).2).2 = s
  rw [hf, ha]

namespace Access.Reads

theorem pure (x : α) : Reads (Pure.pure x : Access σ ε α) := fun _ => rfl

theorem throw (e : ε) : Reads (throw e : Access σ ε α) := fun _ => rfl

theorem liftM {a : StateM σ α} (ha : TableSearch.Reads a) : Reads (liftM a : Access σ ε α) := ha

theorem liftExcept (r : Except ε α) : Reads (MonadLiftT.monadLift r : Access σ ε α) := fun _ => rfl

theorem mapError {a : Access σ ε α} {f : ε → δ} (ha : Reads a) : Reads (a.mapError f) := ha

theorem bind {a : Access σ ε α} {f : α → Access σ ε β} (ha : Reads a) (hf : ∀ x, Reads (f x)) :
    Reads (a >>= f) := by
  intro s
  have hs := ha s
  rcases hr : a s with ⟨e | x, t⟩
  all_goals
    rw [hr] at hs
    subst hs
  · rw [Access.bind_error hr]
  · rw [Access.bind_ok hr, hf x]

end Access.Reads

end Steps

namespace Page

variable {s : Source}

theorem hit?_reads (q : Query) (row : Row) : Reads (hit? s q row : StateM Memory (Option Hit)) := by
  unfold hit?
  split
  · exact Reads.bind (fun m => by rw [Hit.ofRow_apply]) fun _ => Reads.pure _
  · exact Reads.pure _

theorem examine_reads (q : Query) (want : Nat) (rows : List Row) :
    Reads (examine s q want rows : StateM Memory Findings) := by
  induction rows generalizing want with
  | nil => exact Reads.pure _
  | cons row rows ih =>
    refine Reads.bind (hit?_reads q row) fun hit => ?_
    cases hit with
    | none => exact Reads.bind (ih want) fun _ => Reads.pure _
    | some hit =>
      dsimp only
      split
      · exact Reads.pure _
      · exact Reads.bind (ih (want - 1)) fun _ => Reads.pure _

theorem hitsOf_reads (rows : List Row) : Reads (hitsOf s rows : StateM Memory (List Hit)) := by
  induction rows with
  | nil => exact Reads.pure _
  | cons row rows ih =>
    exact Reads.bind (fun m => by rw [Hit.ofRow_apply]) fun _ =>
      Reads.bind ih fun _ => Reads.pure _

theorem scan_reads (q : Query) {batch : Nat} (hb : 0 < batch) (want cursor : Nat) :
    Access.Reads (scan s q batch want cursor hb : Access Memory SourceError Page) := by
  induction hn : 2 ^ 63 - cursor using Nat.strongRecOn generalizing want cursor with
  | ind n ih =>
    rw [scan]
    refine Access.Reads.bind (Access.Reads.mapError fun _ => rfl) fun rows => ?_
    refine Access.Reads.bind (Access.Reads.liftM (examine_reads q want rows)) fun found => ?_
    split
    · exact Access.Reads.pure _
    · split
      · rename_i hmore
        exact Access.Reads.bind (ih _ (by omega) _ _ rfl) fun _ => Access.Reads.pure _
      · exact Access.Reads.pure _

theorem search_reads (s : Source) (r : Request) (batch : Int64) :
    Access.Reads (search s r batch : Access Memory SourceError Page) := by
  unfold search
  split
  · exact Access.Reads.throw _
  · dsimp only
    split
    · exact Access.Reads.bind (Access.Reads.mapError fun _ => rfl) fun rows =>
        Access.Reads.bind (Access.Reads.liftM (hitsOf_reads rows)) fun _ => Access.Reads.pure _
    · exact scan_reads _ _ _ _

end Page

namespace Engine

variable (e : Engine) (name : String)

theorem searchOne_reads (r : Request) :
    Access.Reads (e.searchOne name r : Access Memory EngineError Page) :=
  Access.Reads.bind (Access.Reads.liftExcept _) fun s =>
    Access.Reads.mapError (Page.search_reads s _ _)

theorem searchEach_reads (r : Request) (names : List String) :
    Access.Reads (e.searchEach r names : Access Memory EngineError (List Page)) := by
  induction names with
  | nil => exact Access.Reads.pure _
  | cons name names ih =>
    exact Access.Reads.bind (e.searchOne_reads name r) fun _ =>
      Access.Reads.bind ih fun _ => Access.Reads.pure _

theorem searchMany_reads (names : List String) (r : Request) :
    Access.Reads (e.searchMany names r : Access Memory EngineError (List Page)) := by
  unfold searchMany
  split
  · exact Access.Reads.throw _
  · exact e.searchEach_reads r _

theorem suggest_reads (column partialText : String) :
    Access.Reads (e.suggest name column partialText : Access Memory EngineError _) := by
  refine Access.Reads.bind (Access.Reads.liftExcept _) fun s => Access.Reads.mapError ?_
  unfold Source.suggest
  split
  · exact Access.Reads.pure _
  · exact Access.Reads.bind (Access.Reads.mapError fun _ => rfl) fun _ => Access.Reads.pure _

theorem labels_preload_reads (labels : ForeignKey) (column : String) (keys : List Value) :
    Access.Reads (labels.preload column keys : Access Memory StoreError _) := by
  induction keys with
  | nil => exact Access.Reads.pure _
  | cons key keys ih =>
    refine Access.Reads.bind (fun _ => rfl) fun label => Access.Reads.bind ih fun items => ?_
    cases label <;> exact Access.Reads.pure _

theorem preload_reads (f : Filter) :
    Access.Reads (e.preload name f : Access Memory EngineError _) := by
  refine Access.Reads.bind (Access.Reads.liftExcept _) fun s => Access.Reads.mapError ?_
  unfold Source.preload
  split
  · exact Access.Reads.pure _
  · split
    · split
      · exact Access.Reads.pure _
      · exact Access.Reads.pure _
      · exact Access.Reads.mapError (labels_preload_reads _ _ _)
    · exact Access.Reads.pure _

theorem row?_reads (rowId : Int64) :
    Access.Reads (e.row? name rowId : Access Memory EngineError (Option Hit)) := by
  refine Access.Reads.bind (Access.Reads.liftExcept _) fun s => ?_
  refine Access.Reads.bind (Access.Reads.mapError fun _ => rfl) fun row => ?_
  cases row with
  | none => exact Access.Reads.pure _
  | some row =>
    exact Access.Reads.bind (Access.Reads.liftM fun m => by rw [Hit.ofRow_apply]) fun _ =>
      Access.Reads.pure _

end Engine

end TableSearch
