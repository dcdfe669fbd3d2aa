import Mathlib.Data.List.Forall2
import TableSearch.Proofs.Query
import TableSearch.Proofs.ValueOrder

/-!
# Filters and their values

A filter on a known column with a logic that applies to it compiles, if its values fit the type of
the column, to the condition of the logic on the coerced values. A value that does not fit is named
by the error.
-/
namespace TableSearch

/-- The filter has a condition, which takes the row exactly if `p` holds. -/
def Filter.Selects (f : Filter) (schema : Schema) (row : Row) (p : Prop) : Prop :=
  ∃ condition, f.compile schema = .ok condition ∧ (condition.accepts row ↔ p)

variable {schema : Schema} {column : Column} {logic : Logic} {v w : Value}

/-- Of a logic, only whether it asks for membership matters to the coercion of a value. -/
theorem coerce?_congr {other : Logic} (h : logic.isMembership = other.isMembership)
    (type : ColumnType) (v : Value) : coerce? type logic v = coerce? type other v := by
  simp only [coerce?, h]

theorem ne_null_of_coerce? {type : ColumnType} (h : coerce? type logic v = some w) :
    v ≠ .null := by
  rintro rfl
  cases h

theorem coerce?_ne_null {type : ColumnType} (h : coerce? type logic v = some w) :
    w ≠ .null := by
  rintro rfl
  unfold coerce? at h
  split at h
  · cases h
  · rename_i hnull
    split at h
    · simp at h
    · simp at h
    · split at h
      · cases h
        exact hnull rfl
      · cases h
    · cases h

theorem coerceAll_of_forall₂ {values coerced : List Value}
    (h : values.Forall₂ (fun v w => coerce? column.type logic v = some w) coerced) :
    coerceAll column logic values = .ok coerced := by
  induction h with
  | nil => rfl
  | cons hv _ ih => simp [coerceAll, hv, ih, Except.map]

theorem coerceAll_of_misfit {fitting coerced : List Value}
    (hfitting : fitting.Forall₂ (fun v w => coerce? column.type logic v = some w) coerced)
    (h : coerce? column.type logic v = none) (rest : List Value) :
    coerceAll column logic (fitting ++ v :: rest) =
      .error (.incompatible column.id v.display column.type) := by
  induction hfitting with
  | nil => rw [List.nil_append, coerceAll, h]
  | cons hw _ ih =>
    rw [List.cons_append, coerceAll, hw, ih]
    rfl

theorem forall₂_of_coerceAll {values coerced : List Value}
    (h : coerceAll column logic values = .ok coerced) :
    values.Forall₂ (fun v w => coerce? column.type logic v = some w) coerced := by
  induction values generalizing coerced with
  | nil =>
    cases h
    exact .nil
  | cons v values ih =>
    simp only [coerceAll] at h
    cases hv : coerce? column.type logic v with
    | none =>
      rw [hv] at h
      cases h
    | some w =>
      rw [hv] at h
      cases hrest : coerceAll column logic values with
      | error e =>
        rw [hrest] at h
        cases h
      | ok rest =>
        rw [hrest] at h
        cases h
        exact .cons hv (ih hrest)

theorem Filter.compile_known {f : Filter} (hcolumn : schema.column? f.column = some column)
    (hlogic : f.logic.supports column.type) :
    f.compile schema =
      coerceAll column f.logic f.values >>= conditionOf column.id f.logic := by
  simp only [Filter.compile, hcolumn, hlogic, Bool.not_true, Bool.false_eq_true, if_false]

theorem Filter.compile_unsupported {f : Filter} (hcolumn : schema.column? f.column = some column)
    (hlogic : ¬f.logic.supports column.type) :
    f.compile schema = .error (.unsupportedLogic column.id f.logic column.type) := by
  simp [Filter.compile, hcolumn, hlogic]

theorem Filter.compile_eq (hcolumn : schema.column? column.id = some column)
    (hlogic : logic.supports column.type) (values : List Value) :
    Filter.compile ⟨column.id, logic, values⟩ schema =
      coerceAll column logic values >>= conditionOf column.id logic :=
  compile_known hcolumn hlogic

/-- A filter whose values fit its column compiles to a condition on their coerced forms. -/
theorem Filter.compile_coerced (hcolumn : schema.column? column.id = some column)
    (hlogic : logic.supports column.type) {values coerced : List Value}
    (h : values.Forall₂ (fun v w => coerce? column.type logic v = some w) coerced) :
    Filter.compile ⟨column.id, logic, values⟩ schema = conditionOf column.id logic coerced := by
  rw [compile_eq hcolumn hlogic, coerceAll_of_forall₂ h]
  rfl

theorem Filter.compile_incompatible (hcolumn : schema.column? column.id = some column)
    (hlogic : logic.supports column.type) (h : coerce? column.type logic v = none)
    (values : List Value) :
    Filter.compile ⟨column.id, logic, v :: values⟩ schema =
      .error (.incompatible column.id v.display column.type) := by
  have hall := coerceAll_of_misfit .nil h values
  rw [compile_eq hcolumn hlogic, ← List.nil_append (v :: values), hall]
  rfl

theorem Filter.accepts_eq {f : Filter} {condition : Condition}
    (h : f.compile schema = .ok condition) (row : Row) :
    f.accepts schema row = condition.accepts row := by
  rw [Filter.accepts, h]

theorem Filter.Selects.accepts_iff {f : Filter} {row : Row} {p : Prop}
    (h : f.Selects schema row p) : f.accepts schema row ↔ p := by
  obtain ⟨condition, hcompile, hp⟩ := h
  rw [Filter.accepts_eq hcompile, hp]

theorem accepts_compare {row : Row} {column : String} (hcell : row.get column ≠ .null)
    (comparison : Comparison) (w : Value) :
    (Condition.compare column comparison w).accepts row = comparison.holds (row.get column) w := by
  simp [Condition.accepts, Condition.column, Condition.holds, Value.isNull_eq_false hcell]

end TableSearch
