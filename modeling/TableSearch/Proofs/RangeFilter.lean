import TableSearch.Proofs.IntegerFilter
import TableSearch.Proofs.NormalValues

/-!
# Filters on ranges

A range takes its two bounds in either order. What a row has to be compared with is the smaller and
the greater of the coerced bounds, and a range takes what the less and greater filters of these
leave of the cells that are not null (`range_complements`). The cell may be compared as a number
with one bound and as a text with the other.
-/
namespace TableSearch

/-- Two values, the smaller first. -/
structure Value.Sorted (a b low high : Value) : Prop where
  same : low = a ∧ high = b ∨ low = b ∧ high = a
  ordered : low.AtMost high

namespace Value

variable {a b low high : Value}

theorem Sorted.symm (h : Sorted a b low high) : Sorted b a low high :=
  ⟨h.same.symm, h.ordered⟩

theorem exists_sorted (ha : a ≠ null) (hb : b ≠ null) : ∃ low high, Sorted a b low high := by
  rcases atMost_total ha hb with hab | hba
  · exact ⟨a, b, .inl ⟨rfl, rfl⟩, hab⟩
  · exact ⟨b, a, .inr ⟨rfl, rfl⟩, hba⟩

theorem Sorted.sortBounds_eq (h : Sorted a b low high) (heq : a.order b = some .eq → a = b) :
    sortBounds a b = (low, high) := by
  obtain ⟨hsame, o, ho, hle⟩ := h
  rcases hsame with ⟨rfl, rfl⟩ | ⟨rfl, rfl⟩
  · simp [sortBounds, ho, hle]
  · have hswap : high.order low = some o.swap := by rw [order_swap, ho]; rfl
    cases o with
    | lt => simp [sortBounds, hswap]
    | eq => simp [sortBounds, heq hswap]
    | gt => exact absurd rfl hle

end Value

section Bounds

variable {column : Column} {logic : Logic} {a b v w : Value}

/-- The normal forms of integers and dates are told apart by the order. -/
theorem eq_of_coerce?_order (htype : column.type = .integer ∨ column.type = .date)
    (ha : coerce? column.type logic v = some a) (hb : coerce? column.type logic w = some b)
    (heq : a.order b = some .eq) : a = b := by
  have hv := Value.isNull_eq_false (ne_null_of_coerce? ha)
  have hw := Value.isNull_eq_false (ne_null_of_coerce? hb)
  rcases htype with htype | htype
  · simp only [coerce?, htype, hv, hw, Bool.false_eq_true, if_false] at ha hb
    obtain ⟨m, -, rfl⟩ := Option.map_eq_some_iff.mp ha
    obtain ⟨n, -, rfl⟩ := Option.map_eq_some_iff.mp hb
    rw [Value.order_integer, Option.some.injEq, Std.compare_eq_iff_eq] at heq
    rw [heq]
  · simp only [coerce?, htype, hv, hw, Bool.false_eq_true, if_false] at ha hb
    obtain ⟨s, -, rfl⟩ := Option.map_eq_some_iff.mp ha
    obtain ⟨t, -, rfl⟩ := Option.map_eq_some_iff.mp hb
    rw [Value.order_text, Option.some.injEq, Std.compare_eq_iff_eq] at heq
    rw [heq]

/-- A row lies between two bounds if its cell is neither less than the lower one nor greater than
the upper one. -/
theorem accepts_between_iff {low high : Value} (hlow : low ≠ .null) (hhigh : high ≠ .null)
    (column : String) (row : Row) :
    (Condition.between column low high).accepts row ↔ row.get column ≠ .null ∧
      ¬(Condition.compare column .less low).accepts row ∧
      ¬(Condition.compare column .greater high).accepts row := by
  by_cases hcell : row.get column = .null
  · simp [Condition.accepts, Condition.column, hcell, Value.isNull]
  · obtain ⟨o, ho, -⟩ := Value.order_total hcell hlow
    obtain ⟨p, hp, -⟩ := Value.order_total hcell hhigh
    rw [accepts_compare hcell, accepts_compare hcell]
    simp only [Condition.accepts, Condition.column, Condition.holds, Comparison.holds,
      Value.isNull_eq_false hcell, ho, hp]
    cases o <;> cases p <;> simp [hcell]

end Bounds

/-- What a range between two bounds is, and what the less and greater filters of its ends leave. -/
structure RangeComplement (schema : Schema) (column : String) (a b low high : Value) : Prop where
  /-- Either order of the bounds gives the same condition. -/
  range : ∃ condition, Filter.compile ⟨column, .range, [a, b]⟩ schema = .ok condition ∧
    Filter.compile ⟨column, .range, [b, a]⟩ schema = .ok condition
  less : ∃ condition, Filter.compile ⟨column, .less, [low]⟩ schema = .ok condition
  greater : ∃ condition, Filter.compile ⟨column, .greater, [high]⟩ schema = .ok condition
  complement (row : Row) : Filter.accepts ⟨column, .range, [a, b]⟩ schema row ↔
    row.get column ≠ .null ∧ ¬Filter.accepts ⟨column, .less, [low]⟩ schema row ∧
      ¬Filter.accepts ⟨column, .greater, [high]⟩ schema row

section Columns

variable {schema : Schema} {column : Column} {a b a' b' low high v w : Value}

theorem compile_normal_one (hcolumn : schema.column? column.id = some column) {logic : Logic}
    (hlogic : logic.supports column.type)
    (hmember : logic.isMembership = Logic.range.isMembership)
    (h : coerce? column.type .range v = some w) :
    Filter.compile ⟨column.id, logic, [w]⟩ schema = conditionOf column.id logic [w] := by
  have hw : coerce? column.type logic w = some w := by
    rw [coerce?_congr hmember]
    exact coerce?_idem h
  exact Filter.compile_coerced hcolumn hlogic (.cons hw .nil)

theorem compile_range (hcolumn : schema.column? column.id = some column)
    (htype : column.type = .integer ∨ column.type = .date)
    (ha : coerce? column.type .range a = some a') (hb : coerce? column.type .range b = some b')
    (hsorted : Value.Sorted a' b' low high) :
    Filter.compile ⟨column.id, .range, [a, b]⟩ schema = .ok (.between column.id low high) := by
  have hlogic : Logic.supports .range column.type := by
    rcases htype with htype | htype <;> rw [htype] <;> rfl
  rw [Filter.compile_coerced hcolumn hlogic (.cons ha (.cons hb .nil)), conditionOf_range,
    hsorted.sortBounds_eq (eq_of_coerce?_order htype ha hb)]

theorem rangeComplement_of_sorted (hcolumn : schema.column? column.id = some column)
    (htype : column.type = .integer ∨ column.type = .date)
    (ha : coerce? column.type .range a = some a') (hb : coerce? column.type .range b = some b')
    (hsorted : Value.Sorted a' b' low high) :
    RangeComplement schema column.id a b low high := by
  have hlogic : Logic.supports .less column.type ∧ Logic.supports .greater column.type := by
    rcases htype with htype | htype <;> rw [htype] <;> exact ⟨rfl, rfl⟩
  have hends : (∃ v, coerce? column.type .range v = some low) ∧
      ∃ v, coerce? column.type .range v = some high := by
    rcases hsorted.same with ⟨rfl, rfl⟩ | ⟨rfl, rfl⟩
    · exact ⟨⟨a, ha⟩, b, hb⟩
    · exact ⟨⟨b, hb⟩, a, ha⟩
  obtain ⟨⟨v, hlow⟩, w, hhigh⟩ := hends
  have hrange := compile_range hcolumn htype ha hb hsorted
  have hless : Filter.compile ⟨column.id, .less, [low]⟩ schema =
      .ok (.compare column.id .less low) := compile_normal_one hcolumn hlogic.1 rfl hlow
  have hgreater : Filter.compile ⟨column.id, .greater, [high]⟩ schema =
      .ok (.compare column.id .greater high) := compile_normal_one hcolumn hlogic.2 rfl hhigh
  refine ⟨⟨_, hrange, compile_range hcolumn htype hb ha hsorted.symm⟩, ⟨_, hless⟩,
    ⟨_, hgreater⟩, ?_⟩
  intro row
  rw [Filter.accepts_eq hrange, Filter.accepts_eq hless, Filter.accepts_eq hgreater]
  exact accepts_between_iff (coerce?_ne_null hlow) (coerce?_ne_null hhigh) column.id row

/-- On a column of integers or dates, and for bounds that fit it: the coerced bounds can be sorted,
and however they are, the range between the bounds, in either order, takes the rows whose cell is
not null and which neither the less filter of the lower end nor the greater filter of the upper end
takes. -/
theorem range_complements (hcolumn : schema.column? column.id = some column)
    (htype : column.type = .integer ∨ column.type = .date)
    (ha : coerce? column.type .range a = some a')
    (hb : coerce? column.type .range b = some b') :
    (∃ low high, Value.Sorted a' b' low high) ∧
      ∀ low high, Value.Sorted a' b' low high → RangeComplement schema column.id a b low high :=
  ⟨Value.exists_sorted (coerce?_ne_null ha) (coerce?_ne_null hb),
    fun _ _ => rangeComplement_of_sorted hcolumn htype ha hb⟩

end Columns

/-- Bounds in the wrong order, and a cell that is compared with them as a number: the cell is
greater than the upper one, although its text lies between theirs. -/
theorem range_complements_sample :
    countSchema.column? countColumn.id = some countColumn ∧ countColumn.type = .integer ∧
      coerce? countColumn.type .range (.text " 20 ") = some (.integer 20) ∧
      coerce? countColumn.type .range (.integer 1) = some (.integer 1) ∧
      RangeComplement countSchema countColumn.id (.text " 20 ") (.integer 1) (.integer 1)
        (.integer 20) ∧
      Filter.accepts ⟨countColumn.id, .range, [.text " 20 ", .integer 1]⟩ countSchema
        (counted (.text "1x")) ∧
      ¬Filter.accepts ⟨countColumn.id, .range, [.text " 20 ", .integer 1]⟩ countSchema
        (counted (.text "100")) := by
  have hcolumn : countSchema.column? countColumn.id = some countColumn := by decide
  have ha : coerce? countColumn.type .range (.text " 20 ") = some (.integer 20) := by decide
  have hb : coerce? countColumn.type .range (.integer 1) = some (.integer 1) := by decide
  have hsorted : Value.Sorted (.integer 20) (.integer 1) (.integer 1) (.integer 20) :=
    ⟨.inr ⟨rfl, rfl⟩, .lt, by decide, by decide⟩
  have hcomplement := (range_complements hcolumn (.inl rfl) ha hb).2 _ _ hsorted
  refine ⟨hcolumn, rfl, ha, hb, hcomplement, ?_, ?_⟩
  · rw [hcomplement.complement]
    decide
  · rw [hcomplement.complement]
    decide

end TableSearch
