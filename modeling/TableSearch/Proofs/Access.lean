import TableSearch.Mutation

/-!
# Steps of computations that may fail

A sequence of steps is taken apart by the results of the single steps. Steps on a store keep the
state that they leave, steps on a session leave its audit entries alone unless they record one.
-/
namespace TableSearch

theorem exists_of_bind_eq_ok {ε α β : Type} {a : Except ε α} {f : α → Except ε β} {y : β}
    (h : (a >>= f) = .ok y) : ∃ x, a = .ok x ∧ f x = .ok y := by
  cases a with
  | error e => cases h
  | ok x => exact ⟨x, rfl, h⟩

theorem bind_state {σ α β : Type} {a : StateM σ α} {k : α → StateM σ β} {s t : σ} {x : α}
    (h : a s = (x, t)) : (a >>= k) s = k x t := by
  change k (a s).1 (a s).2 = _
  rw [h]

namespace Access

variable {σ ε δ α β : Type}

theorem bind_ok {a : Access σ ε α} {f : α → Access σ ε β} {s t : σ} {x : α}
    (h : a s = (.ok x, t)) : (a >>= f) s = f x t := by
  change ExceptT.bind a f s = _
  simp only [ExceptT.bind, ExceptT.mk, bind, StateT.bind, h]
  rfl

theorem bind_error {a : Access σ ε α} {f : α → Access σ ε β} {s t : σ} {e : ε}
    (h : a s = (.error e, t)) : (a >>= f) s = (.error e, t) := by
  change ExceptT.bind a f s = _
  simp only [ExceptT.bind, ExceptT.mk, bind, StateT.bind, h]
  rfl

theorem mapError_ok {a : Access σ ε α} {f : ε → δ} {s t : σ} {x : α} (h : a s = (.ok x, t)) :
    a.mapError f s = (.ok x, t) := by
  simp only [mapError, attempt, h]
  rfl

theorem mapError_apply (a : Access σ ε α) (f : ε → δ) (s : σ) :
    a.mapError f s = ((a s).1.mapError f, (a s).2) := rfl

theorem map_apply (f : α → β) (a : Access σ ε α) (s : σ) :
    (f <$> a) s = ((a s).1.map f, (a s).2) := by
  change ExceptT.map f a s = _
  simp only [ExceptT.map, ExceptT.mk, bind, StateT.bind]
  rcases a s with ⟨_ | _, t⟩ <;> rfl

theorem liftM_ok {a : StateM σ α} {s t : σ} {x : α} (h : a s = (x, t)) :
    (liftM a : Access σ ε α) s = (.ok x, t) := by
  change (Except.ok (a s).1, (a s).2) = _
  rw [h]

end Access

namespace Session

variable {σ δ ε α : Type}

theorem call_ok {a : Access σ δ α} {b : Session σ} {r : Except δ α} {t : σ}
    (h : a b.store = (r, t)) :
    (call a : Access (Session σ) ε (Except δ α)) b = (.ok r, { b with store := t }) := by
  unfold call Access.attempt
  rw [h]

theorem onStore_apply {a : Access σ ε α} {b : Session σ} {r : Except ε α} {t : σ}
    (h : a b.store = (r, t)) : onStore a b = (r, { b with store := t }) := by
  unfold onStore Access.attempt
  rw [h]

theorem record_apply (entry : AuditEntry) (b : Session σ) :
    (record entry : Access (Session σ) ε Unit) b =
      (.ok (), { b with audit := b.audit ++ [entry] }) := rfl

end Session

end TableSearch
