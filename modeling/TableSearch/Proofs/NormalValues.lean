import TableSearch.Proofs.Calendar.RoundTrip
import TableSearch.Proofs.ClauseMeaning
import TableSearch.Proofs.DateFilter

/-!
# Normal forms of filter values

A filter is applied to its values in the normal form of the column's type, and a value in that form
is taken as it is. Main statement: what a date filter puts down for a value is read as the moment
that the value denotes, without its fraction of a second, so that a date filter on the values it has
been compiled to is compiled to the same condition (`moments_normalized`).
-/
namespace TableSearch

open Calendar

def Value.moment? : Value → Option Moment
  | .null => none
  | .integer n => (DateTime.ofSeconds? n.toInt).map DateTime.moment
  | .text s => readMoment? s

section Moments

variable {v : Value} {m : Moment}

theorem moment?_inCalendar (h : v.moment? = some m) : m.dateTime.InCalendar := by
  cases v with
  | null => cases h
  | integer n =>
    obtain ⟨t, ht, rfl⟩ := Option.map_eq_some_iff.mp h
    exact DateTime.ofSeconds?_inCalendar ht
  | text s =>
    obtain ⟨t, ht, rfl⟩ := Option.map_eq_some_iff.mp h
    exact readDateTime?_inCalendar ht

theorem moment?_write (h : v.moment? = some m) : (Value.text m.write).moment? = some m.whole :=
  readMoment?_write (moment?_inCalendar h)

theorem coerce?_moment (logic : Logic) (v : Value) :
    coerce? .date logic v = v.moment?.map fun m => .text m.write := by
  cases v with
  | null => rfl
  | integer n =>
    change ((DateTime.ofSeconds? n.toInt).map DateTime.write).map Value.text = _
    simp only [Value.moment?, Option.map_map]
    rfl
  | text s =>
    change ((readDateTime? s).map DateTime.write).map Value.text = _
    simp only [Value.moment?, readMoment?, Option.map_map]
    rfl

end Moments

section Coercion

variable {type : ColumnType} {logic : Logic} {v w : Value} {column : Column}

/-- A value in normal form is taken as it is. -/
theorem coerce?_idem (h : coerce? type logic v = some w) : coerce? type logic w = some w := by
  have hnull := Value.isNull_eq_false (ne_null_of_coerce? h)
  cases type with
  | string =>
    simp only [coerce?, hnull, Bool.false_eq_true, if_false] at h
    cases h
    rfl
  | integer =>
    simp only [coerce?, hnull, Bool.false_eq_true, if_false] at h
    obtain ⟨n, -, rfl⟩ := Option.map_eq_some_iff.mp h
    rfl
  | date =>
    rw [coerce?_moment] at h
    obtain ⟨m, hm, rfl⟩ := Option.map_eq_some_iff.mp h
    rw [coerce?_moment, moment?_write hm]
    rfl
  | member =>
    simp only [coerce?, hnull, Bool.false_eq_true, if_false] at h
    split at h
    · rename_i hlogic
      cases h
      simp [coerce?, hnull, hlogic]
    · rename_i hlogic
      cases h
      simp [coerce?, Value.isNull, hlogic, Value.display]

theorem coerceAll_of_normal {values : List Value}
    (h : ∀ v ∈ values, coerce? column.type logic v = some v) :
    coerceAll column logic values = .ok values :=
  coerceAll_of_forall₂ (List.forall₂_same.mpr h)

theorem normal_of_coerceAll {values normal : List Value}
    (h : coerceAll column logic values = .ok normal) :
    ∀ v ∈ normal, coerce? column.type logic v = some v := by
  have hforall := forall₂_of_coerceAll h
  clear h
  induction hforall with
  | nil => simp
  | cons hv _ ih => exact List.forall_mem_cons.mpr ⟨coerce?_idem hv, ih⟩

end Coercion

section Conditions

variable {schema : Schema} {column : Column} {logic : Logic}

theorem sortBounds_idem (a b : Value) :
    sortBounds (sortBounds a b).1 (sortBounds a b).2 = sortBounds a b := by
  by_cases h : a.order b = some .gt
  · have hswap : b.order a = some .lt := by rw [Value.order_swap, h]; rfl
    simp [sortBounds, h, hswap]
  · simp [sortBounds, h]

theorem mem_of_mem_sortBounds {a b v : Value}
    (h : v = (sortBounds a b).1 ∨ v = (sortBounds a b).2) : v = a ∨ v = b := by
  unfold sortBounds at h
  split at h
  · exact h.symm
  · exact h

/-- The condition of a date filter has the values of the filter, and is the condition on them. -/
theorem conditionOf_bounds (hlogic : logic.supports .date) {id : String} {values : List Value}
    {condition : Condition} (h : conditionOf id logic values = .ok condition) :
    conditionOf id logic condition.bounds = .ok condition ∧
      ∀ v ∈ condition.bounds, v ∈ values := by
  unfold conditionOf at h
  split at h
  case h_7 a b =>
    cases (conditionOf_range id a b).symm.trans h
    refine ⟨by rw [Condition.bounds, conditionOf_range, sortBounds_idem], ?_⟩
    intro v hv
    have hbound : v = (sortBounds a b).1 ∨ v = (sortBounds a b).2 := by
      simpa [Condition.bounds] using hv
    simpa using mem_of_mem_sortBounds hbound
  all_goals first
    | (cases h; exact ⟨rfl, fun v hv => hv⟩)
    | cases hlogic
    | cases h

theorem Filter.compile_normal (hcolumn : schema.column? column.id = some column)
    {values normal : List Value} (h : coerceAll column logic values = .ok normal) :
    Filter.compile ⟨column.id, logic, normal⟩ schema =
      Filter.compile ⟨column.id, logic, values⟩ schema := by
  by_cases hlogic : logic.supports column.type
  · rw [compile_eq hcolumn hlogic, compile_eq hcolumn hlogic, h,
      coerceAll_of_normal (normal_of_coerceAll h)]
  · rw [compile_unsupported hcolumn hlogic, compile_unsupported hcolumn hlogic]

theorem Filter.compile_bounds (hcolumn : schema.column? column.id = some column)
    (htype : column.type = .date) {values : List Value} {condition : Condition}
    (h : Filter.compile ⟨column.id, logic, values⟩ schema = .ok condition) :
    Filter.compile ⟨column.id, logic, condition.bounds⟩ schema = .ok condition := by
  obtain ⟨known, normal, hknown, hlogic, hnormal, hcondition⟩ := compile_cases h
  cases hcolumn.symm.trans hknown
  have hdate : logic.supports .date := htype ▸ hlogic
  obtain ⟨hsame, hmem⟩ := conditionOf_bounds hdate hcondition
  have hfixed : coerceAll column logic condition.bounds = .ok condition.bounds :=
    coerceAll_of_normal fun v hv => normal_of_coerceAll hnormal v (hmem v hv)
  rw [compile_eq hcolumn hlogic, hfixed]
  exact hsame

end Conditions

/-- A date filter takes the values that denote a moment and puts the moment in its written form.
That is read as the moment without its fraction, so the filter on values in this form, or on those
of its condition, is compiled to the same condition. -/
theorem moments_normalized :
    (∀ (logic : Logic) (v : Value),
      coerce? .date logic v = v.moment?.map fun m => .text m.write) ∧
    (∀ (v : Value) (m : Moment), v.moment? = some m →
      (Value.text m.write).moment? = some m.whole) ∧
    ∀ (schema : Schema) (column : Column) (logic : Logic) (values : List Value),
      schema.column? column.id = some column → column.type = .date →
      (∀ normal, coerceAll column logic values = .ok normal →
        Filter.compile ⟨column.id, logic, normal⟩ schema =
          Filter.compile ⟨column.id, logic, values⟩ schema) ∧
      ∀ condition, Filter.compile ⟨column.id, logic, values⟩ schema = .ok condition →
        Filter.compile ⟨column.id, logic, condition.bounds⟩ schema = .ok condition := by
  refine ⟨coerce?_moment, fun v m => moment?_write, ?_⟩
  intro schema column logic values hcolumn htype
  exact ⟨fun normal => Filter.compile_normal hcolumn,
    fun condition => Filter.compile_bounds hcolumn htype⟩

/-- A leap second with a fraction, moved to the year before the year 0, and a second after the
year 9999, which is written as the smaller one. -/
theorem moments_normalized_sample :
    (Value.text " 0000-01-01T00:30:60.25+01:00 ").moment? =
        some ⟨⟨⟨-1, 12, 31⟩, 23, 30, 60⟩, 250000000⟩ ∧
      (Value.text "-0001-12-31 23:30:60").moment? = some ⟨⟨⟨-1, 12, 31⟩, 23, 30, 60⟩, 0⟩ ∧
      daySchema.column? dayColumn.id = some dayColumn ∧ dayColumn.type = .date ∧
      Filter.compile ⟨dayColumn.id, .range,
          [.text " 0000-01-01T00:30:60.25+01:00 ", .integer 253402300800]⟩ daySchema =
        .ok (.between dayColumn.id (.text "+10000-01-01 00:00:00")
          (.text "-0001-12-31 23:30:60")) ∧
      Filter.compile ⟨dayColumn.id, .range,
          [.text "+10000-01-01 00:00:00", .text "-0001-12-31 23:30:60"]⟩ daySchema =
        .ok (.between dayColumn.id (.text "+10000-01-01 00:00:00")
          (.text "-0001-12-31 23:30:60")) := by
  have hmoment : (Value.text " 0000-01-01T00:30:60.25+01:00 ").moment? =
      some ⟨⟨⟨-1, 12, 31⟩, 23, 30, 60⟩, 250000000⟩ := by decide
  have hcolumn : daySchema.column? dayColumn.id = some dayColumn := by decide
  have hcompile : Filter.compile ⟨dayColumn.id, .range,
      [.text " 0000-01-01T00:30:60.25+01:00 ", .integer 253402300800]⟩ daySchema =
      .ok (.between dayColumn.id (.text "+10000-01-01 00:00:00")
        (.text "-0001-12-31 23:30:60")) := by rfl
  have hwrite : Moment.write ⟨⟨⟨-1, 12, 31⟩, 23, 30, 60⟩, 250000000⟩ = "-0001-12-31 23:30:60" := by
    decide
  obtain ⟨-, hwritten, hfilter⟩ := moments_normalized
  have hread := hwritten _ _ hmoment
  have hagain := (hfilter _ _ _ _ hcolumn rfl).2 _ hcompile
  rw [hwrite] at hread
  exact ⟨hmoment, hread, hcolumn, rfl, hcompile, hagain⟩

end TableSearch
