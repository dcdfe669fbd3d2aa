import TableSearch.Proofs.FilterValues
import TableSearch.Proofs.LooseEquality

/-!
# Filters on integers

Less and greater compare a cell with an integer as numbers, wherever it reads as one. Equality is
that of what is displayed. The two agree on integers, on decimal forms and on words; between them
fall the texts that read as the integer and are spelled otherwise (`integerFilters_agree_iff`).
-/
namespace TableSearch

namespace Value

variable {a : Value} {n : Int64}

/-- The value is a text that reads as an integer and is not its decimal form. -/
def Respells (a : Value) (n : Int64) : Prop :=
  ∃ s, a = text s ∧ a.toInteger? = some n ∧ ¬Text.isDecimal s.toList

/-- A value has the place of an integer in the order if it reads as the integer. -/
theorem order_integer_eq_iff (ha : a ≠ null) :
    a.order (integer n) = some .eq ↔ a.toInteger? = some n := by
  rw [order_eq_iff ha (integer_ne_null n)]
  constructor
  · rintro (h | ⟨k, hk⟩)
    · exact toInteger?_of_looseEq h
    · exact hk.left.trans hk.right.symm
  · intro hread
    exact .inr ⟨n, hread, rfl, .inr rfl⟩

theorem looseEq_integer_iff (ha : a ≠ null) :
    a.looseEq (integer n) ↔ a.toInteger? = some n ∧ ¬a.Respells n := by
  constructor
  · intro h
    refine ⟨toInteger?_of_looseEq h, ?_⟩
    rintro ⟨s, rfl, hs, hdecimal⟩
    exact hdecimal ((eq_writeInt64_iff hs).mp ((looseEq_iff ha (integer_ne_null n)).mp h))
  · rintro ⟨hread, hspelled⟩
    rw [looseEq_iff ha (integer_ne_null n)]
    cases a with
    | null => exact absurd rfl ha
    | integer m => rw [Option.some.inj hread]
    | text s =>
      refine (eq_writeInt64_iff hread).mpr ?_
      by_contra hdecimal
      exact hspelled ⟨s, rfl, hread, hdecimal⟩

end Value

/-- The filter of a logic with one value, which is both bounds of a range. -/
def Filter.ofValue (column : String) (v : Value) : Logic → Filter
  | .range => ⟨column, .range, [v, v]⟩
  | logic => ⟨column, logic, [v]⟩

/-- What the comparison filters of one value promise of each other on a row. -/
structure ComparisonsAgree (schema : Schema) (column : String) (v : Value) (row : Row) : Prop where
  one : ∃! logic, logic ∈ [Logic.less, .equals, .greater] ∧
    (Filter.ofValue column v logic).accepts schema row
  differs : (Filter.ofValue column v .differs).accepts schema row ↔
    (Filter.ofValue column v .less).accepts schema row ∨
      (Filter.ofValue column v .greater).accepts schema row
  range : (Filter.ofValue column v .range).accepts schema row ↔
    (Filter.ofValue column v .equals).accepts schema row

section Conditions

variable {row : Row} {column : String}

theorem accepts_between_self (hcell : row.get column ≠ .null) (w : Value) :
    (Condition.between column w w).accepts row ↔ (row.get column).order w = some .eq := by
  simp only [Condition.accepts, Condition.column, Condition.holds, Value.isNull_eq_false hcell]
  cases (row.get column).order w with
  | none => simp
  | some o => cases o <;> simp

end Conditions

section IntegerColumns

variable {schema : Schema} {column : Column} {row : Row} {v : Value} {n : Int64}

theorem coerce?_integer (logic : Logic) (h : v.toInteger? = some n) :
    coerce? .integer logic v = some (.integer n) := by
  cases v with
  | null => cases h
  | integer m => exact congrArg (Option.map Value.integer) h
  | text s => exact congrArg (Option.map Value.integer) h

theorem compile_integer (hcolumn : schema.column? column.id = some column)
    (htype : column.type = .integer) (hv : v.toInteger? = some n) {logic : Logic}
    (hlogic : logic.supports .integer) :
    (Filter.ofValue column.id v logic).compile schema =
      conditionOf column.id logic (Filter.ofValue column.id (.integer n) logic).values := by
  have hcoerce : coerce? column.type logic v = some (.integer n) := by
    rw [htype, coerce?_integer logic hv]
  rw [← htype] at hlogic
  cases logic
  case range => exact Filter.compile_coerced hcolumn hlogic (.cons hcoerce (.cons hcoerce .nil))
  all_goals exact Filter.compile_coerced hcolumn hlogic (.cons hcoerce .nil)

theorem sortBounds_integer (n : Int64) :
    sortBounds (.integer n) (.integer n) = (.integer n, .integer n) := by
  unfold sortBounds
  split <;> rfl

/-- What the comparison filters on an integer column ask of a cell that is not null. -/
structure SelectByInteger (schema : Schema) (column : String) (v : Value) (row : Row)
    (n : Int64) : Prop where
  less : (Filter.ofValue column v .less).Selects schema row
    ((row.get column).order (.integer n) = some .lt)
  greater : (Filter.ofValue column v .greater).Selects schema row
    ((row.get column).order (.integer n) = some .gt)
  equals : (Filter.ofValue column v .equals).Selects schema row
    ((row.get column).toInteger? = some n ∧ ¬(row.get column).Respells n)
  differs : (Filter.ofValue column v .differs).Selects schema row
    ¬((row.get column).toInteger? = some n ∧ ¬(row.get column).Respells n)
  range : (Filter.ofValue column v .range).Selects schema row
    ((row.get column).toInteger? = some n)

theorem selectByInteger (hcolumn : schema.column? column.id = some column)
    (htype : column.type = .integer) (hv : v.toInteger? = some n)
    (hcell : row.get column.id ≠ .null) : SelectByInteger schema column.id v row n where
  less := by
    refine ⟨_, compile_integer hcolumn htype hv rfl, ?_⟩
    rw [accepts_compare hcell, Comparison.holds, beq_iff_eq]
  greater := by
    refine ⟨_, compile_integer hcolumn htype hv rfl, ?_⟩
    rw [accepts_compare hcell, Comparison.holds, beq_iff_eq]
  equals := by
    refine ⟨_, compile_integer hcolumn htype hv rfl, ?_⟩
    rw [accepts_compare hcell, Comparison.holds, Value.looseEq_integer_iff hcell]
  differs := by
    refine ⟨_, compile_integer hcolumn htype hv rfl, ?_⟩
    rw [accepts_compare hcell, Comparison.holds, Bool.not_eq_true', ← Bool.not_eq_true,
      Value.looseEq_integer_iff hcell]
  range := by
    refine ⟨.between column.id (.integer n) (.integer n), ?_, ?_⟩
    · rw [compile_integer hcolumn htype hv rfl, Filter.ofValue, conditionOf, sortBounds_integer]
    · rw [accepts_between_self hcell, Value.order_integer_eq_iff hcell]

/-- Without another spelling of the integer the filters follow the order. -/
theorem SelectByInteger.agree (h : SelectByInteger schema column.id v row n)
    (hcell : row.get column.id ≠ .null) (hspelled : ¬(row.get column.id).Respells n) :
    ComparisonsAgree schema column.id v row := by
  obtain ⟨o, ho, -⟩ := Value.order_total hcell (Value.integer_ne_null n)
  have heq : (row.get column.id).toInteger? = some n ↔ o = .eq := by
    rw [← Value.order_integer_eq_iff hcell, ho, Option.some.injEq]
  have hless := h.less.accepts_iff
  have hgreater := h.greater.accepts_iff
  have hequals := h.equals.accepts_iff
  have hdiffers := h.differs.accepts_iff
  have hrange := h.range.accepts_iff
  rw [ho, Option.some.injEq] at hless hgreater
  rw [and_iff_left hspelled, heq] at hequals hdiffers
  rw [heq] at hrange
  refine ⟨?_, ?_, by rw [hrange, hequals]⟩
  · cases o with
    | lt => exact ⟨.less, by simp [hless], by simp [hequals, hgreater]⟩
    | eq => exact ⟨.equals, by simp [hequals], by simp [hless, hgreater]⟩
    | gt => exact ⟨.greater, by simp [hgreater], by simp [hless, hequals]⟩
  · rw [hdiffers, hless, hgreater]
    cases o <;> simp

/-- Another spelling of the integer has its place in the order and does not equal it. -/
theorem SelectByInteger.accepts_of_respells (h : SelectByInteger schema column.id v row n)
    (hcell : row.get column.id ≠ .null) (hspelled : (row.get column.id).Respells n) :
    ∀ logic ∈ [Logic.less, .equals, .greater, .differs, .range],
      ((Filter.ofValue column.id v logic).accepts schema row ↔
        logic = .differs ∨ logic = .range) := by
  have hread : (row.get column.id).toInteger? = some n := by
    obtain ⟨s, -, hread, -⟩ := hspelled
    exact hread
  have horder := (Value.order_integer_eq_iff hcell).mpr hread
  simp [h.less.accepts_iff, h.equals.accepts_iff, h.greater.accepts_iff, h.differs.accepts_iff,
    h.range.accepts_iff, horder, hread, hspelled]

/-- The filters of one value on an integer column compile, and on a cell that is not null exactly
one of less, equals and greater holds, with the others to match, unless the cell is a text that
reads as the integer of the value in another spelling. Then none of the three holds, and the cell
both differs from the value and lies in the range of it. -/
theorem integerFilters_agree_iff (hcolumn : schema.column? column.id = some column)
    (htype : column.type = .integer) (hv : v.toInteger? = some n)
    (hcell : row.get column.id ≠ .null) :
    SelectByInteger schema column.id v row n ∧
    (ComparisonsAgree schema column.id v row ↔ ¬(row.get column.id).Respells n) ∧
    ((row.get column.id).Respells n →
      ∀ logic ∈ [Logic.less, .equals, .greater, .differs, .range],
        ((Filter.ofValue column.id v logic).accepts schema row ↔
          logic = .differs ∨ logic = .range)) := by
  have h := selectByInteger hcolumn htype hv hcell
  refine ⟨h, ⟨?_, h.agree hcell⟩, h.accepts_of_respells hcell⟩
  intro hagree hspelled
  obtain ⟨logic, ⟨hlogic, haccepts⟩, -⟩ := hagree.one
  have hnone := h.accepts_of_respells hcell hspelled logic (by simp at hlogic ⊢; tauto)
  rcases hnone.mp haccepts with rfl | rfl
  · simp at hlogic
  · simp at hlogic

end IntegerColumns

def countColumn : Column := { id := "count", type := .integer, title := "Count" }

def countSchema : Schema := ⟨"counts", "counts", [countColumn]⟩

def counted (count : Value) : Row := ⟨1, Dict.ofList [("count", count)]⟩

/-- A word is greater than the integer five, whichever way five is given. -/
theorem integerFilters_agree_sample :
    countSchema.column? countColumn.id = some countColumn ∧ countColumn.type = .integer ∧
      (Value.text " +5 ").toInteger? = some 5 ∧
      (counted (.text "five")).get countColumn.id ≠ .null ∧
      ComparisonsAgree countSchema countColumn.id (.text " +5 ") (counted (.text "five")) := by
  have hcolumn : countSchema.column? countColumn.id = some countColumn := by decide
  have hv : (Value.text " +5 ").toInteger? = some 5 := by decide
  have hcell : (counted (.text "five")).get countColumn.id = .text "five" := by decide
  have hnull : (counted (.text "five")).get countColumn.id ≠ .null := by
    rw [hcell]
    exact Value.text_ne_null "five"
  refine ⟨hcolumn, rfl, hv, hnull, (integerFilters_agree_iff hcolumn rfl hv hnull).2.1.mpr ?_⟩
  rintro ⟨s, hs, hread, -⟩
  rw [hcell] at hread
  exact absurd hread (by decide)

/-- A zero in front: no comparison with five holds of the cell. -/
theorem integerFilters_disagree :
    countSchema.column? countColumn.id = some countColumn ∧ countColumn.type = .integer ∧
      (Value.integer 5).toInteger? = some 5 ∧
      (counted (.text "05")).get countColumn.id = .text "05" ∧
      ¬ComparisonsAgree countSchema countColumn.id (.integer 5) (counted (.text "05")) := by
  refine ⟨by decide, rfl, rfl, by decide, ?_⟩
  intro hagree
  have hequals : ¬(Filter.ofValue countColumn.id (.integer 5) .equals).accepts countSchema
      (counted (.text "05")) := by decide
  exact hequals (hagree.range.mp (by decide))

end TableSearch
