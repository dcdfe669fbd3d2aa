import TableSearch.Proofs.Calendar.WrittenOrder
import TableSearch.Proofs.FilterValues
import TableSearch.Proofs.ValueOrder

/-!
# Filters on dates

A filter on a date column compares written date-times. It tells equal date-times from others, and
it takes what is written before, after or between its values (`dateFilters_written`). That is
earlier, later or between in time for years that are written in their order, as the years 0 to 9999
are, and the opposite for others.
-/
namespace TableSearch

open Calendar

def Value.dateTime? : Value → Option DateTime
  | .null => none
  | .integer n => DateTime.ofSeconds? n.toInt
  | .text s => readDateTime? s

section Values

variable {v : Value} {t : DateTime}

theorem dateTime?_valid (h : v.dateTime? = some t) : t.Valid := by
  cases v with
  | null => cases h
  | integer n => exact DateTime.ofSeconds?_valid h
  | text s => exact readDateTime?_valid h

theorem coerce?_date (logic : Logic) (h : v.dateTime? = some t) :
    coerce? .date logic v = some (.text t.write) := by
  cases v with
  | null => cases h
  | integer n =>
    change DateTime.ofSeconds? n.toInt = some t at h
    simp [coerce?, Value.isNull, dateText?, h]
  | text s =>
    change readDateTime? s = some t at h
    simp [coerce?, Value.isNull, dateText?, h]

end Values

section Conditions

variable {row : Row} {column s : String}

theorem accepts_equal (value : String) (hcell : row.get column = .text s) :
    (Condition.compare column .equal (.text value)).accepts row ↔ s = value := by
  simp [Condition.accepts, Condition.column, Condition.holds, Comparison.holds, hcell,
    Value.isNull, Value.looseEq]

theorem accepts_less (value : String) (hcell : row.get column = .text s) :
    (Condition.compare column .less (.text value)).accepts row ↔ compare s value = .lt := by
  simp [Condition.accepts, Condition.column, Condition.holds, Comparison.holds, hcell,
    Value.isNull]

theorem accepts_greater (value : String) (hcell : row.get column = .text s) :
    (Condition.compare column .greater (.text value)).accepts row ↔ compare s value = .gt := by
  simp [Condition.accepts, Condition.column, Condition.holds, Comparison.holds, hcell,
    Value.isNull]

theorem accepts_between (low high : String) (hcell : row.get column = .text s) :
    (Condition.between column (.text low) (.text high)).accepts row ↔
      compare s low ≠ .lt ∧ compare s high ≠ .gt := by
  simp only [Condition.accepts, Condition.column, Condition.holds, hcell, Value.isNull,
    Value.order_text]
  cases compare s low <;> cases compare s high <;> simp

theorem accepts_sortBounds (a b : String) (hcell : row.get column = .text s) :
    (Condition.between column (sortBounds (.text a) (.text b)).1
      (sortBounds (.text a) (.text b)).2).accepts row ↔
      ¬(compare s a = .lt ∧ compare s b = .lt) ∧ ¬(compare s a = .gt ∧ compare s b = .gt) := by
  unfold sortBounds
  rw [Value.order_text]
  by_cases hab : compare a b = .gt
  · have hbelow (h : compare s b = .lt) : compare s a = .lt :=
      Std.TransCmp.lt_trans h (Std.OrientedCmp.lt_of_gt hab)
    have habove (h : compare s a = .gt) : compare s b = .gt := Std.TransCmp.gt_trans h hab
    rw [if_pos (by simp [hab]), accepts_between b a hcell]
    constructor
    · rintro ⟨hb, ha⟩
      exact ⟨fun h => hb h.2, fun h => ha h.1⟩
    · rintro ⟨hlt, hgt⟩
      exact ⟨fun h => hlt ⟨hbelow h, h⟩, fun h => hgt ⟨h, habove h⟩⟩
  · have hle : (compare a b).isLE := Ordering.isLE_iff_ne_gt.mpr hab
    have hbelow (h : compare s a = .lt) : compare s b = .lt :=
      Std.TransCmp.lt_of_lt_of_isLE h hle
    have habove (h : compare s b = .gt) : compare s a = .gt :=
      Std.TransCmp.gt_of_gt_of_isGE h (Std.OrientedCmp.isGE_of_isLE hle)
    rw [if_neg (by simp [hab]), accepts_between a b hcell]
    constructor
    · rintro ⟨ha, hb⟩
      exact ⟨fun h => ha h.1, fun h => hb h.2⟩
    · rintro ⟨hlt, hgt⟩
      exact ⟨fun h => hlt ⟨h, hbelow h⟩, fun h => hgt ⟨habove h, h⟩⟩

end Conditions

section DateColumns

variable {schema : Schema} {column : Column} {row : Row}

theorem conditionOf_range (column : String) (a b : Value) :
    conditionOf column .range [a, b] =
      .ok (.between column (sortBounds a b).1 (sortBounds a b).2) := rfl

theorem compile_dates (hcolumn : schema.column? column.id = some column)
    (htype : column.type = .date) {logic : Logic} (hlogic : logic.supports .date)
    {values : List Value} {times : List DateTime}
    (hvalues : values.Forall₂ (fun v t => v.dateTime? = some t) times) :
    Filter.compile ⟨column.id, logic, values⟩ schema =
      conditionOf column.id logic (times.map fun t => .text t.write) := by
  rw [← htype] at hlogic
  refine Filter.compile_coerced hcolumn hlogic (List.forall₂_map_right_iff.mpr ?_)
  rw [htype]
  exact hvalues.imp fun _ _ => coerce?_date logic

variable {u v v₁ v₂ : Value} {c d d₁ d₂ : DateTime}

/-- To lie between two bounds, in either order, is to lie between the earlier and the later one if
all are written in the order of time. -/
theorem between_iff (h₁ : YearsAgree c.date.year d₁.date.year)
    (h₂ : YearsAgree c.date.year d₂.date.year) :
    ¬(c.WrittenBefore d₁ ∧ c.WrittenBefore d₂) ∧ ¬(d₁.WrittenBefore c ∧ d₂.WrittenBefore c) ↔
      min d₁ d₂ ≤ c ∧ c ≤ max d₁ d₂ := by
  rw [DateTime.writtenBefore_iff h₁, DateTime.writtenBefore_iff h₂,
    DateTime.writtenBefore_iff (yearsAgree_symm h₁),
    DateTime.writtenBefore_iff (yearsAgree_symm h₂), not_and_or, not_and_or]
  simp only [DateTime.not_lt_iff, DateTime.min_le_iff, DateTime.le_max_iff]

/-- The filters of a date column on a cell that holds the written form of `c`, with values that
denote `d`, `d₁` and `d₂`. -/
theorem dateFilters_written (hcolumn : schema.column? column.id = some column)
    (htype : column.type = .date) (hu : u.dateTime? = some c)
    (hcell : row.get column.id = .text c.write) (hv : v.dateTime? = some d)
    (hv₁ : v₁.dateTime? = some d₁) (hv₂ : v₂.dateTime? = some d₂) :
    Filter.Selects ⟨column.id, .equals, [v]⟩ schema row (c = d) ∧
      Filter.Selects ⟨column.id, .less, [v]⟩ schema row (c.WrittenBefore d) ∧
      Filter.Selects ⟨column.id, .greater, [v]⟩ schema row (d.WrittenBefore c) ∧
      Filter.Selects ⟨column.id, .range, [v₁, v₂]⟩ schema row
        (¬(c.WrittenBefore d₁ ∧ c.WrittenBefore d₂) ∧
          ¬(d₁.WrittenBefore c ∧ d₂.WrittenBefore c)) ∧
      (YearsAgree c.date.year d₁.date.year → YearsAgree c.date.year d₂.date.year →
        Filter.Selects ⟨column.id, .range, [v₁, v₂]⟩ schema row
          (min d₁ d₂ ≤ c ∧ c ≤ max d₁ d₂)) := by
  have hc := dateTime?_valid hu
  have hd := dateTime?_valid hv
  have hd₁ := dateTime?_valid hv₁
  have hd₂ := dateTime?_valid hv₂
  have hone : [v].Forall₂ (fun v t => v.dateTime? = some t) [d] := .cons hv .nil
  have htwo : [v₁, v₂].Forall₂ (fun v t => v.dateTime? = some t) [d₁, d₂] :=
    .cons hv₁ (.cons hv₂ .nil)
  have hrange : Filter.Selects ⟨column.id, .range, [v₁, v₂]⟩ schema row
      (¬(c.WrittenBefore d₁ ∧ c.WrittenBefore d₂) ∧
        ¬(d₁.WrittenBefore c ∧ d₂.WrittenBefore c)) := by
    refine ⟨.between column.id (sortBounds (.text d₁.write) (.text d₂.write)).1
      (sortBounds (.text d₁.write) (.text d₂.write)).2, ?_, ?_⟩
    · rw [compile_dates hcolumn htype rfl htwo]
      exact conditionOf_range column.id (.text d₁.write) (.text d₂.write)
    rw [accepts_sortBounds d₁.write d₂.write hcell, DateTime.compare_write_eq_lt_iff hc hd₁,
      DateTime.compare_write_eq_lt_iff hc hd₂, DateTime.compare_write_eq_gt_iff hc hd₁,
      DateTime.compare_write_eq_gt_iff hc hd₂]
  refine ⟨⟨_, compile_dates hcolumn htype rfl hone, ?_⟩,
    ⟨_, compile_dates hcolumn htype rfl hone, ?_⟩,
    ⟨_, compile_dates hcolumn htype rfl hone, ?_⟩, hrange, ?_⟩
  · rw [accepts_equal d.write hcell, DateTime.write_inj hc hd]
  · rw [accepts_less d.write hcell, DateTime.compare_write_eq_lt_iff hc hd]
  · rw [accepts_greater d.write hcell, DateTime.compare_write_eq_gt_iff hc hd]
  · intro h₁ h₂
    rwa [between_iff h₁ h₂] at hrange

end DateColumns

def dayColumn : Column := { id := "day", type := .date, title := "Day" }

def daySchema : Schema := ⟨"days", "days", [dayColumn]⟩

def newYear : Row := ⟨1, Dict.ofList [("day", .text "2024-01-01 00:00:00")]⟩

theorem dateFilters_written_sample :
    daySchema.column? dayColumn.id = some dayColumn ∧
      (Value.text "2024-1-1").dateTime? = some ⟨⟨2024, 1, 1⟩, 0, 0, 0⟩ ∧
      newYear.get dayColumn.id = .text (DateTime.write ⟨⟨2024, 1, 1⟩, 0, 0, 0⟩) ∧
      (Value.integer 1717245000).dateTime? = some ⟨⟨2024, 6, 1⟩, 12, 30, 0⟩ ∧
      (Value.text "2024-12-31 23:59:60").dateTime? = some ⟨⟨2024, 12, 31⟩, 23, 59, 60⟩ ∧
      (Value.text "2023-01-01T02:00:00+02:00").dateTime? = some ⟨⟨2023, 1, 1⟩, 0, 0, 0⟩ ∧
      Filter.Selects ⟨dayColumn.id, .less, [.integer 1717245000]⟩ daySchema newYear
        (DateTime.WrittenBefore ⟨⟨2024, 1, 1⟩, 0, 0, 0⟩ ⟨⟨2024, 6, 1⟩, 12, 30, 0⟩) ∧
      Filter.Selects ⟨dayColumn.id, .range,
          [.text "2024-12-31 23:59:60", .text "2023-01-01T02:00:00+02:00"]⟩ daySchema newYear
        (min (⟨⟨2024, 12, 31⟩, 23, 59, 60⟩ : DateTime) ⟨⟨2023, 1, 1⟩, 0, 0, 0⟩ ≤
            ⟨⟨2024, 1, 1⟩, 0, 0, 0⟩ ∧
          (⟨⟨2024, 1, 1⟩, 0, 0, 0⟩ : DateTime) ≤
            max ⟨⟨2024, 12, 31⟩, 23, 59, 60⟩ ⟨⟨2023, 1, 1⟩, 0, 0, 0⟩) := by
  have hcolumn : daySchema.column? dayColumn.id = some dayColumn := by decide
  have hu : (Value.text "2024-1-1").dateTime? = some ⟨⟨2024, 1, 1⟩, 0, 0, 0⟩ := by decide
  have hcell : newYear.get dayColumn.id = .text (DateTime.write ⟨⟨2024, 1, 1⟩, 0, 0, 0⟩) := by
    decide
  have hv : (Value.integer 1717245000).dateTime? = some ⟨⟨2024, 6, 1⟩, 12, 30, 0⟩ := by decide
  have hv₁ : (Value.text "2024-12-31 23:59:60").dateTime? =
      some ⟨⟨2024, 12, 31⟩, 23, 59, 60⟩ := by decide
  have hv₂ : (Value.text "2023-01-01T02:00:00+02:00").dateTime? =
      some ⟨⟨2023, 1, 1⟩, 0, 0, 0⟩ := by decide
  obtain ⟨-, hless, -, -, hrange⟩ :=
    dateFilters_written hcolumn rfl hu hcell hv hv₁ hv₂
  exact ⟨hcolumn, hu, hcell, hv, hv₁, hv₂, hless,
    hrange (yearsAgree_common (by decide) (by decide) (by decide) (by decide))
      (yearsAgree_common (by decide) (by decide) (by decide) (by decide))⟩

/-- A time in milliseconds, taken for one in seconds, is in a year that is written with a sign.
The filter misses a row that is earlier. -/
theorem less_misses_earlier :
    (Value.text "2024-1-1").dateTime? = some ⟨⟨2024, 1, 1⟩, 0, 0, 0⟩ ∧
      newYear.get dayColumn.id = .text (DateTime.write ⟨⟨2024, 1, 1⟩, 0, 0, 0⟩) ∧
      (Value.integer 1704067200000).dateTime? = some ⟨⟨55969, 9, 28⟩, 0, 0, 0⟩ ∧
      (⟨⟨2024, 1, 1⟩, 0, 0, 0⟩ : DateTime) < ⟨⟨55969, 9, 28⟩, 0, 0, 0⟩ ∧
      ¬Filter.Selects ⟨dayColumn.id, .less, [.integer 1704067200000]⟩ daySchema newYear
        ((⟨⟨2024, 1, 1⟩, 0, 0, 0⟩ : DateTime) < ⟨⟨55969, 9, 28⟩, 0, 0, 0⟩) := by
  refine ⟨by decide, by decide, by decide, by decide, ?_⟩
  rintro ⟨condition, hcompile, haccepts⟩
  have hcondition : Filter.compile ⟨dayColumn.id, .less, [.integer 1704067200000]⟩ daySchema =
      .ok (.compare "day" .less (.text "+55969-09-28 00:00:00")) := by rfl
  cases hcompile.symm.trans hcondition
  exact absurd (haccepts.mpr (by decide)) (by decide)

end TableSearch
