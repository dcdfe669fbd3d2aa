import Mathlib.Logic.Relation
import TableSearch.Proofs.Dict
import TableSearch.Proofs.FilterValues

/-!
# Loose equality

Integers and texts are loosely equal if the same is displayed for them, and null equals only itself.
So loose equality is the kernel of a function, hence an equivalence, and no condition for equality
tells loosely equal values apart (`looseEq_iff_displayed`). The order is coarser: an integer and its
other spellings have one place in it and are not loosely equal (`order_eq_iff`).
-/
namespace TableSearch.Value

/-- What is displayed for a value that is not null. -/
def displayed? : Value → Option String
  | null => none
  | a => some a.display

section Display

variable {a b : Value}

theorem displayed?_of_ne_null (h : a ≠ null) : a.displayed? = some a.display := by
  cases a with
  | null => exact absurd rfl h
  | integer n => rfl
  | text s => rfl

theorem displayed?_eq_iff : a.displayed? = b.displayed? ↔
    (a = null ∧ b = null) ∨ (a ≠ null ∧ b ≠ null ∧ a.display = b.display) := by
  by_cases ha : a = null
  · by_cases hb : b = null
    · simp [ha, hb]
    · simp [ha, hb, displayed?]
  · by_cases hb : b = null
    · simp [ha, hb, displayed?]
    · simp [ha, hb, displayed?_of_ne_null ha, displayed?_of_ne_null hb]

/-- Loose equality is the kernel of what is displayed. -/
theorem looseEq_iff_displayed?_eq : a.looseEq b ↔ a.displayed? = b.displayed? := by
  by_cases ha : a = null
  · subst ha
    cases b <;> simp [looseEq, displayed?]
  · by_cases hb : b = null
    · subst hb
      cases a <;> simp [looseEq, displayed?]
    · rw [looseEq_iff ha hb, displayed?_of_ne_null ha, displayed?_of_ne_null hb, Option.some_inj]

theorem looseEq_equivalence : Equivalence fun a b : Value => a.looseEq b = true := by
  simp only [looseEq_iff_displayed?_eq]
  exact eq_equivalence.comap displayed?

theorem looseEq_congr (h : a.looseEq b) (cell : Value) : cell.looseEq a = cell.looseEq b := by
  rw [Bool.eq_iff_iff]
  constructor
  · intro ha
    exact looseEq_equivalence.trans ha h
  · intro hb
    exact looseEq_equivalence.trans hb (looseEq_equivalence.symm h)

end Display

section Order

variable {a b : Value}

theorem toInteger?_of_looseEq (h : a.looseEq b) : a.toInteger? = b.toInteger? := by
  rw [looseEq_iff_displayed?_eq, displayed?_eq_iff] at h
  rcases h with ⟨rfl, rfl⟩ | ⟨ha, hb, hdisplay⟩
  · rfl
  · rw [← toInteger?_display ha, hdisplay, toInteger?_display hb]

/-- Values have one place in the order if they are loosely equal or compare as one number. -/
theorem order_eq_iff (ha : a ≠ null) (hb : b ≠ null) :
    a.order b = some .eq ↔ a.looseEq b ∨ ∃ n, ComparesAs a b n n := by
  by_cases hnumbers : AsNumbers a b
  · obtain ⟨m, n, hmn⟩ := hnumbers
    rw [order_of_comparesAs hmn, Option.some_inj, Std.compare_eq_iff_eq]
    constructor
    · rintro rfl
      exact .inr ⟨m, hmn⟩
    · rintro (h | ⟨k, hk⟩)
      · have hread := toInteger?_of_looseEq h
        rw [hmn.left, hmn.right] at hread
        exact Option.some.inj hread
      · have hm := hmn.left.symm.trans hk.left
        have hn := hmn.right.symm.trans hk.right
        exact Option.some.inj (hm.trans hn.symm)
  · rw [order_of_not_comparesAs ha hb hnumbers, Option.some_inj, Std.compare_eq_iff_eq,
      looseEq_iff ha hb]
    constructor
    · exact .inl
    · rintro (h | ⟨n, hn⟩)
      · exact h
      · exact absurd ⟨n, n, hn⟩ hnumbers

end Order

section Filters

variable {a b cell : Value}

def asRow (cell : Value) (column : String) : Row := ⟨0, Dict.empty.insert column cell⟩

theorem accepts_asRow (h : cell ≠ null) (column : String) (a : Value) :
    (Condition.compare column .equal a).accepts (cell.asRow column) = cell.looseEq a := by
  have hget : (cell.asRow column).get column = cell := by
    rw [Row.get, asRow, Dict.get?_insert_self, Option.getD_some]
  rw [accepts_compare (by rwa [hget]), Comparison.holds, hget]

/-- Values are loosely equal exactly if one and the same rows satisfy the condition to equal the one
and the condition to equal the other. -/
theorem looseEq_iff_accepts (column : String) : a.looseEq b ↔
    ∀ row, (Condition.compare column .equal a).accepts row =
      (Condition.compare column .equal b).accepts row := by
  constructor
  · intro h row
    simp only [Condition.accepts, Condition.column, Condition.holds, Comparison.holds,
      looseEq_congr h]
  · intro h
    have hself (v : Value) : v.looseEq v := looseEq_equivalence.refl v
    by_cases ha : a = null
    · by_cases hb : b = null
      · rw [ha, hb]
        rfl
      · have hrow := h (b.asRow column)
        rw [accepts_asRow hb, accepts_asRow hb, hself] at hrow
        exact looseEq_equivalence.symm hrow
    · have hrow := h (a.asRow column)
      rw [accepts_asRow ha, accepts_asRow ha, hself] at hrow
      exact hrow.symm

end Filters

/-- Two values are loosely equal exactly if both are null, or neither is and the same is displayed
for both. This is an equivalence of all values, integers and texts among them. Loosely equal values
that are not null have one place in the order. Loosely equal are just the values that no condition
for equality tells apart. -/
theorem looseEq_iff_displayed :
    (∀ a b : Value, a.looseEq b ↔
      (a = null ∧ b = null) ∨ (a ≠ null ∧ b ≠ null ∧ a.display = b.display)) ∧
    Equivalence (fun a b : Value => a.looseEq b = true) ∧
    (∀ a b : Value, a ≠ null → b ≠ null → a.looseEq b → a.order b = some .eq) ∧
    ∀ (a b : Value) (column : String), a.looseEq b ↔
      ∀ row, (Condition.compare column .equal a).accepts row =
        (Condition.compare column .equal b).accepts row := by
  refine ⟨?_, looseEq_equivalence, ?_, fun _ _ => looseEq_iff_accepts⟩
  · intro a b
    rw [looseEq_iff_displayed?_eq, displayed?_eq_iff]
  · intro a b ha hb h
    exact (order_eq_iff ha hb).mpr (.inl h)

/-- The least integer is loosely equal to its decimal form. Minus zero as a text has the place of
zero in the order and is not loosely equal to it. -/
theorem looseEq_iff_displayed_sample :
    integer (-9223372036854775808) ≠ null ∧ text "-9223372036854775808" ≠ null ∧
      (integer (-9223372036854775808)).looseEq (text "-9223372036854775808") ∧
      (integer (-9223372036854775808)).order (text "-9223372036854775808") = some .eq ∧
      (text "-0").order (integer 0) = some .eq ∧ ¬(text "-0").looseEq (integer 0) := by
  obtain ⟨hiff, -, horder, -⟩ := looseEq_iff_displayed
  have hinteger := integer_ne_null (-9223372036854775808)
  have htext := text_ne_null "-9223372036854775808"
  have heq := (hiff (integer (-9223372036854775808)) (text "-9223372036854775808")).mpr
    (.inr ⟨hinteger, htext, by decide⟩)
  exact ⟨hinteger, htext, heq, horder _ _ hinteger htext heq, by decide, by decide⟩

end TableSearch.Value
