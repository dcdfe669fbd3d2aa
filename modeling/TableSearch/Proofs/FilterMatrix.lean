import TableSearch.Proofs.Calendar.Bounds
import TableSearch.Proofs.ClauseMeaning
import TableSearch.Proofs.Config
import TableSearch.Proofs.FilterValues

/-!
# Which filters compile

A matrix says which logics apply to columns of which types, and how many values they take. A filter
compiles exactly if its column is known, the matrix has its logic for the type of the column, all of
its values fit the type, there are as many of them as the logic takes, and a pattern is one. Else
the error tells of the first of these checks that fails (`compile_iff_wellFormed`).
-/
namespace TableSearch

open Calendar

/-- A row of the matrix: logics, the types of the columns that they apply to, and the number of
values that they take. -/
structure MatrixRow where
  logics : List Logic
  types : List ColumnType
  arity : Arity

/-- The matrix of logics and types. -/
def logicMatrix : List MatrixRow :=
  [⟨[.includes, .excludes], [.member, .integer, .string], .atLeastOne⟩,
    ⟨[.equals, .differs], [.string, .integer, .date, .member], .one⟩,
    ⟨[.greater, .less], [.integer, .date], .one⟩,
    ⟨[.range], [.integer, .date], .two⟩,
    ⟨[.contains, .lacks, .begins, .ends], [.string, .member], .one⟩,
    ⟨[.regex], [.string], .one⟩]

/-- The values that a filter on a column of a type can have. -/
inductive Value.Fits : ColumnType → Value → Prop
  | integer (n : Int64) : Fits .integer (.integer n)
  | numeral {s : String} {n : Int64} (h : Text.readInt64? (Text.trim s) = some n) :
    Fits .integer (.text s)
  | timestamp {n : Int64} (hfirst : DateTime.firstSecond ≤ n.toInt)
    (hlast : n.toInt ≤ DateTime.lastSecond) : Fits .date (.integer n)
  | date {s : String} {t : DateTime} (h : readDateTime? s = some t) : Fits .date (.text s)
  | string {v : Value} (h : v ≠ .null) : Fits .string v
  | member {v : Value} (h : v ≠ .null) : Fits .member v

namespace Filter

/-- The column of a filter is known and the matrix has a row for it. -/
structure Applies (schema : Schema) (f : Filter) (column : Column) (row : MatrixRow) : Prop where
  known : schema.column? f.column = some column
  mem_matrix : row ∈ logicMatrix
  mem_logics : f.logic ∈ row.logics
  mem_types : column.type ∈ row.types

/-- Besides, every value fits the type of the column. -/
structure Typed (schema : Schema) (f : Filter) (column : Column) (row : MatrixRow) : Prop
    extends Applies schema f column row where
  fits : ∀ v ∈ f.values, v.Fits column.type

/-- Besides, there are as many values as the logic takes. -/
structure Counted (schema : Schema) (f : Filter) (column : Column) (row : MatrixRow) : Prop
    extends Typed schema f column row where
  count : row.arity.allows f.values.length

/-- A filter that passes all checks. -/
def WellFormed (schema : Schema) (f : Filter) : Prop :=
  ∃ column row, f.Counted schema column row ∧
    (f.logic = .regex → ∀ v ∈ f.values, ∃ matcher, Regex.Matcher.compile {} v.display = .ok matcher)

/-- The first check that a filter does not pass, as an error tells of it. -/
inductive Fault (schema : Schema) (f : Filter) : FilterError → Prop
  | unknownColumn (h : ∀ column ∈ schema.columns, column.id ≠ f.column) :
    Fault schema f (.unknownColumn f.column)
  | unsupportedLogic {column : Column} (hcolumn : schema.column? f.column = some column)
    (h : ∀ row ∈ logicMatrix, f.logic ∈ row.logics → column.type ∉ row.types) :
    Fault schema f (.unsupportedLogic f.column f.logic column.type)
  | incompatible {column : Column} {row : MatrixRow} (happlies : f.Applies schema column row)
    {fitting rest : List Value} {v : Value} (hvalues : f.values = fitting ++ v :: rest)
    (hfitting : ∀ w ∈ fitting, w.Fits column.type) (h : ¬v.Fits column.type) :
    Fault schema f (.incompatible f.column v.display column.type)
  | valueCount {column : Column} {row : MatrixRow} (htyped : f.Typed schema column row)
    (h : ¬row.arity.allows f.values.length) :
    Fault schema f (.valueCount f.column row.arity f.values.length)
  | invalidPattern {column : Column} {row : MatrixRow} (hcounted : f.Counted schema column row)
    (hlogic : f.logic = .regex) {v : Value} (hv : v ∈ f.values) {e : Regex.PatternError}
    (h : Regex.Matcher.compile {} v.display = .error e) :
    Fault schema f (.invalidPattern (.malformed e))

end Filter

section Checks

variable {type : ColumnType} {logic : Logic} {column : Column} {v : Value}

theorem supports_iff :
    logic.supports type ↔ ∃ row ∈ logicMatrix, logic ∈ row.logics ∧ type ∈ row.types := by
  cases logic <;> cases type <;> decide

theorem arity_eq_of_mem : ∀ row ∈ logicMatrix, ∀ logic ∈ row.logics, logic.arity = row.arity := by
  decide

theorem not_fits_null (type : ColumnType) : ¬Value.null.Fits type := by
  intro h
  cases h with
  | string h => exact h rfl
  | member h => exact h rfl

theorem fits_integer_iff : v.Fits .integer ↔ v.toInteger?.isSome := by
  rw [Option.isSome_iff_exists]
  constructor
  · intro h
    cases h with
    | integer n => exact ⟨n, rfl⟩
    | numeral hn => exact ⟨_, hn⟩
  · rintro ⟨n, hn⟩
    cases v with
    | null => cases hn
    | integer k => exact .integer k
    | text s => exact .numeral hn

theorem fits_date_iff : v.Fits .date ↔ (dateText? v).isSome := by
  constructor
  · intro h
    cases h with
    | timestamp hfirst hlast =>
      rw [dateText?, Option.isSome_map]
      exact (DateTime.ofSeconds?_isSome_iff _).mpr ⟨hfirst, hlast⟩
    | date ht => simp [dateText?, ht]
  · intro h
    cases v with
    | null => cases h
    | integer n =>
      rw [dateText?, Option.isSome_map] at h
      obtain ⟨hfirst, hlast⟩ := (DateTime.ofSeconds?_isSome_iff _).mp h
      exact .timestamp hfirst hlast
    | text s =>
      rw [dateText?, Option.isSome_map, Option.isSome_iff_exists] at h
      obtain ⟨t, ht⟩ := h
      exact .date ht

/-- The values that are coerced are those that fit. -/
theorem coerce?_isSome_iff (type : ColumnType) (logic : Logic) (v : Value) :
    (coerce? type logic v).isSome ↔ v.Fits type := by
  by_cases hnull : v = .null
  · subst hnull
    exact iff_of_false Bool.false_ne_true (not_fits_null type)
  · simp only [coerce?, Value.isNull_eq_false hnull, Bool.false_eq_true, if_false]
    cases type with
    | string => exact iff_of_true rfl (.string hnull)
    | integer => rw [Option.isSome_map, fits_integer_iff]
    | date => rw [Option.isSome_map, fits_date_iff]
    | member =>
      refine iff_of_true ?_ (.member hnull)
      dsimp only
      split <;> rfl

theorem exists_coerced {values : List Value} (h : ∀ v ∈ values, v.Fits type) (logic : Logic) :
    ∃ coerced, values.Forall₂ (fun v w => coerce? type logic v = some w) coerced := by
  induction values with
  | nil => exact ⟨[], .nil⟩
  | cons v values ih =>
    obtain ⟨hv, hvalues⟩ := List.forall_mem_cons.mp h
    obtain ⟨w, hw⟩ := Option.isSome_iff_exists.mp ((coerce?_isSome_iff type logic v).mpr hv)
    obtain ⟨coerced, hcoerced⟩ := ih hvalues
    exact ⟨w :: coerced, .cons hw hcoerced⟩

theorem fits_or_exists_not_fits (type : ColumnType) (values : List Value) :
    (∀ v ∈ values, v.Fits type) ∨ ∃ fitting v rest, values = fitting ++ v :: rest ∧
      (∀ w ∈ fitting, w.Fits type) ∧ ¬v.Fits type := by
  induction values with
  | nil => exact .inl (by simp)
  | cons v values ih =>
    by_cases hv : v.Fits type
    · rcases ih with h | ⟨fitting, w, rest, rfl, hfitting, hw⟩
      · exact .inl (List.forall_mem_cons.mpr ⟨hv, h⟩)
      · exact .inr ⟨v :: fitting, w, rest, rfl, List.forall_mem_cons.mpr ⟨hv, hfitting⟩, hw⟩
    · exact .inr ⟨[], v, values, rfl, by simp, hv⟩

end Checks

section Conditions

variable {id : String} {logic : Logic} {values : List Value} {condition : Condition}

theorem conditionOf_eq_valueCount (h : ¬logic.arity.allows values.length) :
    conditionOf id logic values = .error (.valueCount id logic.arity values.length) := by
  unfold conditionOf
  split
  all_goals first
    | rfl
    | simp [Logic.arity, Arity.allows] at h

theorem exists_conditionOf (hlogic : logic ≠ .regex) (h : logic.arity.allows values.length) :
    ∃ condition, conditionOf id logic values = .ok condition := by
  cases logic with
  | regex => exact absurd rfl hlogic
  | range =>
    obtain ⟨a, b, rfl⟩ := List.length_eq_two.mp (beq_iff_eq.mp h)
    exact ⟨_, rfl⟩
  | includes | excludes =>
    obtain ⟨v, rest, rfl⟩ := List.exists_cons_of_length_pos (Nat.pos_of_ne_zero (bne_iff_ne.mp h))
    exact ⟨_, rfl⟩
  | _ =>
    obtain ⟨v, rfl⟩ := List.length_eq_one_iff.mp (beq_iff_eq.mp h)
    exact ⟨_, rfl⟩

theorem conditionOf_regex (id pattern : String) :
    conditionOf id .regex [.text pattern] =
      match Regex.Matcher.compile {} pattern with
      | .ok matcher => .ok (.regex id pattern matcher false)
      | .error e => .error (.invalidPattern (.malformed e)) := rfl

theorem conditionOf_column (h : conditionOf id logic values = .ok condition) :
    condition.column = id := by
  unfold conditionOf at h
  split at h
  all_goals first
    | (cases h; rfl)
    | (split at h <;> cases h; rfl)
    | cases h

end Conditions

namespace Filter

variable {schema : Schema} {f : Filter} {column : Column} {row : MatrixRow}

theorem Applies.supports (h : f.Applies schema column row) : f.logic.supports column.type :=
  supports_iff.mpr ⟨row, h.mem_matrix, h.mem_logics, h.mem_types⟩

theorem Applies.arity_eq (h : f.Applies schema column row) : f.logic.arity = row.arity :=
  arity_eq_of_mem row h.mem_matrix f.logic h.mem_logics

theorem Applies.compile_eq (h : f.Applies schema column row) :
    f.compile schema = coerceAll column f.logic f.values >>= conditionOf f.column f.logic := by
  rw [compile_known h.known h.supports, Schema.id_of_column? h.known]

theorem Typed.compile_eq (h : f.Typed schema column row) :
    ∃ coerced, f.compile schema = conditionOf f.column f.logic coerced ∧
      f.values.Forall₂ (fun v w => coerce? column.type f.logic v = some w) coerced := by
  obtain ⟨coerced, hcoerced⟩ := exists_coerced h.fits f.logic
  refine ⟨coerced, ?_, hcoerced⟩
  rw [h.toApplies.compile_eq, coerceAll_of_forall₂ hcoerced]
  rfl

theorem Counted.compile_regex (h : f.Counted schema column row) (hlogic : f.logic = .regex)
    {v : Value} (hv : v ∈ f.values) :
    f.compile schema = conditionOf f.column .regex [.text v.display] := by
  obtain ⟨coerced, hcompile, hforall⟩ := h.toTyped.compile_eq
  have htype : column.type = .string := by
    have hsupports := h.supports
    rw [hlogic] at hsupports
    exact beq_iff_eq.mp hsupports
  have hcount := h.count
  rw [← h.arity_eq, hlogic] at hcount
  obtain ⟨w, hvalues⟩ := List.length_eq_one_iff.mp (beq_iff_eq.mp hcount)
  rw [hvalues, List.mem_singleton] at hv
  subst hv
  rw [hvalues] at hforall
  cases hforall with
  | cons hw hnil =>
    cases hnil
    have hnull := Value.isNull_eq_false (ne_null_of_coerce? hw)
    simp only [coerce?, htype, hnull, Bool.false_eq_true, if_false] at hw
    cases hw
    rw [hcompile, hlogic]

theorem WellFormed.compile_ok (h : f.WellFormed schema) :
    ∃ condition, f.compile schema = .ok condition := by
  obtain ⟨column, row, hcounted, hpattern⟩ := h
  have hcount := hcounted.count
  rw [← hcounted.arity_eq] at hcount
  by_cases hlogic : f.logic = .regex
  · rw [hlogic] at hcount
    obtain ⟨v, hvalues⟩ := List.length_eq_one_iff.mp (beq_iff_eq.mp hcount)
    have hv : v ∈ f.values := by simp [hvalues]
    obtain ⟨matcher, hmatcher⟩ := hpattern hlogic v hv
    refine ⟨.regex f.column v.display matcher false, ?_⟩
    rw [hcounted.compile_regex hlogic hv, conditionOf_regex, hmatcher]
  · obtain ⟨coerced, hcompile, hforall⟩ := hcounted.toTyped.compile_eq
    rw [hforall.length_eq] at hcount
    rw [hcompile]
    exact exists_conditionOf hlogic hcount

theorem Fault.compile_error {e : FilterError} (h : f.Fault schema e) :
    f.compile schema = .error e := by
  cases h with
  | unknownColumn h =>
    have hnone : schema.column? f.column = none :=
      List.find?_eq_none.mpr fun column hcolumn hid => h column hcolumn (beq_iff_eq.mp hid)
    rw [compile, hnone]
  | unsupportedLogic hcolumn h =>
    rw [compile_unsupported hcolumn, Schema.id_of_column? hcolumn]
    rw [supports_iff]
    rintro ⟨row, hrow, hmem, htype⟩
    exact h row hrow hmem htype
  | incompatible happlies hvalues hfitting h =>
    obtain ⟨coerced, hcoerced⟩ := exists_coerced hfitting f.logic
    rw [← coerce?_isSome_iff _ f.logic, Option.not_isSome_iff_eq_none] at h
    rw [happlies.compile_eq, hvalues, coerceAll_of_misfit hcoerced h,
      Schema.id_of_column? happlies.known]
    rfl
  | valueCount htyped h =>
    rw [← htyped.arity_eq] at h ⊢
    obtain ⟨coerced, hcompile, hforall⟩ := htyped.compile_eq
    rw [hforall.length_eq] at h ⊢
    rw [hcompile, conditionOf_eq_valueCount h]
  | invalidPattern hcounted hlogic hv h =>
    rw [hcounted.compile_regex hlogic hv, conditionOf_regex, h]

theorem applies_or_fault (schema : Schema) (f : Filter) :
    (∃ column row, f.Applies schema column row) ∨ ∃ e, f.Fault schema e := by
  cases hcolumn : schema.column? f.column with
  | none =>
    have h := List.find?_eq_none.mp hcolumn
    exact .inr ⟨_, .unknownColumn fun column hmem hid => h column hmem (beq_iff_eq.mpr hid)⟩
  | some column =>
    by_cases hrow : ∃ row ∈ logicMatrix, f.logic ∈ row.logics ∧ column.type ∈ row.types
    · obtain ⟨row, hrow, hlogic, htype⟩ := hrow
      exact .inl ⟨column, row, hcolumn, hrow, hlogic, htype⟩
    · refine .inr ⟨_, .unsupportedLogic hcolumn ?_⟩
      intro row hmem hlogic htype
      exact hrow ⟨row, hmem, hlogic, htype⟩

theorem Applies.typed_or_fault (h : f.Applies schema column row) :
    f.Typed schema column row ∨ ∃ e, f.Fault schema e := by
  rcases fits_or_exists_not_fits column.type f.values with
    hfits | ⟨fitting, v, rest, hvalues, hfitting, hv⟩
  · exact .inl ⟨h, hfits⟩
  · exact .inr ⟨_, .incompatible h hvalues hfitting hv⟩

theorem Typed.counted_or_fault (h : f.Typed schema column row) :
    f.Counted schema column row ∨ ∃ e, f.Fault schema e := by
  by_cases hcount : row.arity.allows f.values.length
  · exact .inl ⟨h, hcount⟩
  · exact .inr ⟨_, .valueCount h hcount⟩

theorem Counted.wellFormed_or_fault (h : f.Counted schema column row) :
    f.WellFormed schema ∨ ∃ e, f.Fault schema e := by
  by_cases hpattern : f.logic = .regex → ∀ v ∈ f.values,
      ∃ matcher, Regex.Matcher.compile {} v.display = .ok matcher
  · exact .inl ⟨column, row, h, hpattern⟩
  · push Not at hpattern
    obtain ⟨hlogic, v, hv, hmatcher⟩ := hpattern
    cases hcompile : Regex.Matcher.compile {} v.display with
    | ok matcher => exact absurd hcompile (hmatcher matcher)
    | error e => exact .inr ⟨_, .invalidPattern h hlogic hv hcompile⟩

/-- A filter passes all checks or there is a first one that it does not pass. -/
theorem wellFormed_or_fault (schema : Schema) (f : Filter) :
    f.WellFormed schema ∨ ∃ e, f.Fault schema e := by
  rcases applies_or_fault schema f with ⟨column, row, happlies⟩ | hfault
  · rcases happlies.typed_or_fault with htyped | hfault
    · rcases htyped.counted_or_fault with hcounted | hfault
      · exact hcounted.wellFormed_or_fault
      · exact .inr hfault
    · exact .inr hfault
  · exact .inr hfault

theorem compile_column {condition : Condition} (h : f.compile schema = .ok condition) :
    condition.column = f.column := by
  obtain ⟨column, values, hcolumn, -, -, hcondition⟩ := compile_cases h
  rw [conditionOf_column hcondition, Schema.id_of_column? hcolumn]

end Filter

/-- A filter is compiled if and only if it passes all checks, and else the error tells of the first
one that it does not pass. The condition is on the column of the filter, has a value to look a cell
up among if it looks it up, and is left to a store unless the filter is a pattern. -/
theorem compile_iff_wellFormed (schema : Schema) (f : Filter) :
    ((∃ condition, f.compile schema = .ok condition) ↔ f.WellFormed schema) ∧
    (∀ e, f.compile schema = .error e ↔ f.Fault schema e) ∧
    ∀ condition, f.compile schema = .ok condition →
      condition.column = f.column ∧ (∀ id negate, condition ≠ .member id [] negate) ∧
        (condition.isNative = false ↔ f.logic = .regex) := by
  refine ⟨⟨?_, Filter.WellFormed.compile_ok⟩, fun e => ⟨?_, Filter.Fault.compile_error⟩, ?_⟩
  · rintro ⟨condition, hcompile⟩
    rcases f.wellFormed_or_fault schema with h | ⟨e, h⟩
    · exact h
    · cases h.compile_error.symm.trans hcompile
  · intro hcompile
    rcases f.wellFormed_or_fault schema with h | ⟨e', h⟩
    · obtain ⟨condition, hok⟩ := h.compile_ok
      cases hok.symm.trans hcompile
    · cases h.compile_error.symm.trans hcompile
      exact h
  · intro condition hcompile
    refine ⟨Filter.compile_column hcompile, ?_, ?_⟩
    · rintro id negate rfl
      exact Condition.bounds_ne_nil hcompile rfl rfl
    · rw [Filter.compile_isNative hcompile]
      simp

end TableSearch
