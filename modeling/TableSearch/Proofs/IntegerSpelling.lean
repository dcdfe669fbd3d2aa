import TableSearch.Proofs.IntegerFilter

/-!
# Integers and their decimal forms as filter values

Outside of date columns a filter can be given an integer or the text of its decimal form. Both are
coerced to one value, except where values are looked up as they are, among members; there the two
conditions differ and take the same rows (`sameOutcome_of_spelled`).
-/
namespace TableSearch

/-- A value and itself, or an integer and its decimal form. -/
inductive Value.Spelled : Value → Value → Prop
  | same (v : Value) : Spelled v v
  | decimal (n : Int64) : Spelled (.integer n) (.text (Text.writeInt64 n))

/-- Two filters are refused for one reason, or their conditions take the same rows. -/
inductive SameOutcome : Except FilterError Condition → Except FilterError Condition → Prop
  | refused (e : FilterError) : SameOutcome (.error e) (.error e)
  | compiled {c d : Condition} (h : ∀ row, c.accepts row = d.accepts row) :
    SameOutcome (.ok c) (.ok d)

theorem SameOutcome.refl : ∀ outcome, SameOutcome outcome outcome
  | .error e => .refused e
  | .ok _ => .compiled fun _ => rfl

section Values

variable {v w : Value} {type : ColumnType} {logic : Logic}

theorem Value.Spelled.display_eq (h : v.Spelled w) : v.display = w.display := by
  cases h with
  | same => rfl
  | decimal n => rfl

theorem Value.Spelled.isNull_eq (h : v.Spelled w) : v.isNull = w.isNull := by
  cases h with
  | same => rfl
  | decimal n => rfl

theorem Value.Spelled.looseEq (h : v.Spelled w) : v.looseEq w := by
  rw [Value.looseEq_iff_displayed?_eq]
  cases h with
  | same => rfl
  | decimal n => rfl

theorem coerce?_eq_of_spelled (htype : type ≠ .date)
    (hraw : ¬(type = .member ∧ logic.isMembership)) (h : v.Spelled w) :
    coerce? type logic v = coerce? type logic w := by
  cases h with
  | same => rfl
  | decimal n =>
    cases type with
    | string => rfl
    | integer =>
      rw [coerce?_integer logic rfl, coerce?_integer logic (Value.toInteger?_writeInt64 n)]
    | date => exact absurd rfl htype
    | member =>
      have hlogic : logic.isMembership = false := by simpa using hraw
      simp [coerce?, hlogic, Value.isNull, Value.display]

end Values

section Lists

variable {column : Column} {logic : Logic} {values values' : List Value}

theorem coerceAll_eq_of_spelled (htype : column.type ≠ .date)
    (hraw : ¬(column.type = .member ∧ logic.isMembership))
    (h : values.Forall₂ Value.Spelled values') :
    coerceAll column logic values = coerceAll column logic values' := by
  induction h with
  | nil => rfl
  | cons hv _ ih =>
    rw [coerceAll, coerceAll, coerce?_eq_of_spelled htype hraw hv, hv.display_eq, ih]

theorem coerceAll_raw (htype : column.type = .member) (hlogic : logic.isMembership)
    (values : List Value) :
    coerceAll column logic values =
      if values.any Value.isNull then .error (.incompatible column.id "" column.type)
      else .ok values := by
  induction values with
  | nil => rfl
  | cons v values ih =>
    by_cases hv : v = .null
    · subst hv
      rfl
    · have hcoerce : coerce? column.type logic v = some v := by
        simp [coerce?, htype, hlogic, Value.isNull_eq_false hv]
      rw [coerceAll, hcoerce, ih, List.any_cons, Value.isNull_eq_false hv, Bool.false_or]
      dsimp only
      split <;> rfl

theorem any_eq_of_spelled (p : Value → Bool) (hp : ∀ v w, v.Spelled w → p v = p w)
    (h : values.Forall₂ Value.Spelled values') : values.any p = values'.any p := by
  induction h with
  | nil => rfl
  | cons hv _ ih => rw [List.any_cons, List.any_cons, hp _ _ hv, ih]

theorem sameOutcome_member {id : String} (negate : Bool)
    (h : values.Forall₂ Value.Spelled values') :
    SameOutcome (.ok (.member id values negate)) (.ok (.member id values' negate)) := by
  refine .compiled fun row => ?_
  have hany := any_eq_of_spelled (row.get id).looseEq
    (fun v w hv => Value.looseEq_congr hv.looseEq (row.get id)) h
  simp only [Condition.accepts, Condition.column, Condition.holds, hany]

/-- Looking up values takes the same rows however the integers among the values are spelled. -/
theorem sameOutcome_conditionOf {id : String} (hlogic : logic.isMembership)
    (h : values.Forall₂ Value.Spelled values') :
    SameOutcome (conditionOf id logic values) (conditionOf id logic values') := by
  cases logic with
  | includes =>
    cases h with
    | nil => exact .refused _
    | cons hv hrest => exact sameOutcome_member false (.cons hv hrest)
  | excludes =>
    cases h with
    | nil => exact .refused _
    | cons hv hrest => exact sameOutcome_member true (.cons hv hrest)
  | _ => cases hlogic

end Lists

/-- On a column of strings, integers or members: with integers among the values of a filter replaced
by their decimal forms, the filter is refused for the same reason or is compiled to a condition that
takes the same rows. -/
theorem sameOutcome_of_spelled {schema : Schema} {column : Column} {values values' : List Value}
    (hcolumn : schema.column? column.id = some column) (htype : column.type ≠ .date)
    (logic : Logic) (h : values.Forall₂ Value.Spelled values') :
    SameOutcome (Filter.compile ⟨column.id, logic, values⟩ schema)
      (Filter.compile ⟨column.id, logic, values'⟩ schema) := by
  by_cases hlogic : logic.supports column.type
  · rw [Filter.compile_eq hcolumn hlogic, Filter.compile_eq hcolumn hlogic]
    by_cases hraw : column.type = .member ∧ logic.isMembership
    · obtain ⟨hmember, hmembership⟩ := hraw
      have hnull := any_eq_of_spelled Value.isNull (fun v w hv => hv.isNull_eq) h
      rw [coerceAll_raw hmember hmembership, coerceAll_raw hmember hmembership, hnull]
      split
      · exact .refused _
      · exact sameOutcome_conditionOf hmembership h
    · rw [coerceAll_eq_of_spelled htype hraw h]
      exact .refl _
  · rw [Filter.compile_unsupported hcolumn hlogic, Filter.compile_unsupported hcolumn hlogic]
    exact .refused _

def gradeColumn : Column where
  id := "grade"
  type := .member
  title := "Grade"
  options := some (.listed [⟨"1", "First"⟩, ⟨"x", "None"⟩])

def gradeSchema : Schema := ⟨"grades", "grades", [gradeColumn]⟩

/-- Members are looked up as they are given, so the two conditions are different ones. -/
theorem sameOutcome_of_spelled_sample :
    gradeSchema.column? gradeColumn.id = some gradeColumn ∧ gradeColumn.type ≠ .date ∧
      [.integer 1, .text "x"].Forall₂ Value.Spelled [.text "1", .text "x"] ∧
      Filter.compile ⟨gradeColumn.id, .includes, [.integer 1, .text "x"]⟩ gradeSchema =
        .ok (.member gradeColumn.id [.integer 1, .text "x"] false) ∧
      Filter.compile ⟨gradeColumn.id, .includes, [.text "1", .text "x"]⟩ gradeSchema =
        .ok (.member gradeColumn.id [.text "1", .text "x"] false) ∧
      ∀ row, (Condition.member gradeColumn.id [.integer 1, .text "x"] false).accepts row =
        (Condition.member gradeColumn.id [.text "1", .text "x"] false).accepts row := by
  have hcolumn : gradeSchema.column? gradeColumn.id = some gradeColumn := by decide
  have hspelled : [.integer 1, .text "x"].Forall₂ Value.Spelled [.text "1", .text "x"] :=
    .cons (.decimal 1) (.cons (.same _) .nil)
  have hsame := sameOutcome_of_spelled hcolumn (by decide) .includes hspelled
  refine ⟨hcolumn, by decide, hspelled, rfl, rfl, ?_⟩
  cases hsame with
  | compiled h => exact h

end TableSearch
