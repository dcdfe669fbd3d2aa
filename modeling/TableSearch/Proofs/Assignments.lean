import TableSearch.Command
import TableSearch.Proofs.DecimalForm
import TableSearch.Proofs.Dict

/-!
# Assignments on the command line

An assignment is parted at its first equality sign, and of two for one column the later counts. A
text that reads as an integer becomes the integer, so what is stored is displayed as it was typed
unless it was typed as an integer in another spelling than the decimal form (`changes_assigned`).
-/
namespace TableSearch.Command

def typed (given : String × String) : String := given.1 ++ "=" ++ given.2

section Values

variable (s : String)

theorem display_typedValue :
    (typedValue s).display = ((Text.readInt64? s).map Text.writeInt64).getD s := by
  unfold typedValue
  cases Text.readInt64? s <;> rfl

/-- A text is displayed as it was typed unless it is another spelling of an integer. -/
theorem display_typedValue_eq_iff :
    (typedValue s).display = s ↔
      ∀ n, Text.readInt64? s = some n → Text.isDecimal s.toList := by
  rw [display_typedValue]
  cases h : Text.readInt64? s with
  | none => simp
  | some n =>
    rw [Option.map_some, Option.getD_some, Text.writeInt64_eq_iff h]
    simp

end Values

section Pairs

variable {given : List (String × String)}

theorem assignment?_typed {column : String} (h : '=' ∉ column.toList) (s : String) :
    assignment? (typed (column, s)) = some (column, s) := by
  have htext : (typed (column, s)).toList = column.toList ++ '=' :: s.toList := by simp [typed]
  have hcolumn : (column.toList ++ '=' :: s.toList).takeWhile (· != '=') = column.toList := by
    have hother : ∀ c ∈ column.toList, (c != '=') = true := by
      intro c hc
      rw [bne_iff_ne]
      rintro rfl
      exact h hc
    rw [List.takeWhile_append_of_pos hother]
    simp
  simp [assignment?, htext, hcolumn]

theorem assignments_typed (h : ∀ g ∈ given, '=' ∉ g.1.toList) :
    (given.map typed).mapM assignment? = some given := by
  induction given with
  | nil => rfl
  | cons g given ih =>
    obtain ⟨hg, hgiven⟩ := List.forall_mem_cons.mp h
    simp [assignment?_typed hg g.2, ih hgiven]

/-- A column is changed to the last text that it was given. -/
theorem get?_changes (given : List (String × String)) (column : String) :
    (changes given).get? column = (given.reverse.lookup column).map typedValue := by
  rw [changes, Dict.get?_ofList, ← List.map_reverse]
  induction given.reverse with
  | nil => rfl
  | cons g l ih =>
    obtain ⟨k, s⟩ := g
    by_cases hcolumn : column = k
    · simp [Dict.find?, hcolumn]
    · have hne : (column == k) = false := beq_eq_false_iff_ne.mpr hcolumn
      simp [Dict.find?, List.lookup_cons, hcolumn, hne, ih]

theorem mem_keys_changes {column : String} :
    column ∈ (changes given).keys ↔ column ∈ given.map Prod.fst := by
  rw [Dict.mem_keys_iff, get?_changes, Option.isSome_map, List.lookup_isSome_iff]
  simp

/-- Assignments to columns without an equality sign change every column that is given, once, to the
last text that it is given. What is stored is displayed as the text, or in decimal form where the
text reads as an integer. -/
theorem changes_assigned (h : ∀ g ∈ given, '=' ∉ g.1.toList) :
    ∃ written, ((given.map typed).mapM assignment?).map changes = some written ∧
      written.keys.Nodup ∧ (∀ column, column ∈ written.keys ↔ column ∈ given.map Prod.fst) ∧
      ∀ column s, given.reverse.lookup column = some s →
        ∃ v, written.get? column = some v ∧
          v.display = ((Text.readInt64? s).map Text.writeInt64).getD s ∧
          (v.display = s ↔ ∀ n, Text.readInt64? s = some n → Text.isDecimal s.toList) := by
  refine ⟨changes given, ?_, Dict.nodup_keys _, fun column => mem_keys_changes, ?_⟩
  · rw [assignments_typed h, Option.map_some]
  · intro column s hlast
    refine ⟨typedValue s, ?_, display_typedValue s, display_typedValue_eq_iff s⟩
    rw [get?_changes, hlast, Option.map_some]

/-- The later of two values for a column is kept as it is typed. -/
theorem changes_assigned_sample :
    (∀ g ∈ [("size", "1"), ("title", "a=b"), ("size", "-12")], '=' ∉ g.1.toList) ∧
      ∃ written : Changes,
        (["size=1", "title=a=b", "size=-12"].mapM assignment?).map changes = some written ∧
          (∀ column, column ∈ written.keys ↔ column ∈ ["size", "title", "size"]) ∧
          ∃ v, written.get? "size" = some v ∧ v.display = "-12" := by
  have hcolumns : ∀ g ∈ [("size", "1"), ("title", "a=b"), ("size", "-12")], '=' ∉ g.1.toList := by
    decide
  obtain ⟨written, hwritten, -, hkeys, hlast⟩ := changes_assigned hcolumns
  obtain ⟨v, hv, -, hdisplay⟩ := hlast "size" "-12" (by decide)
  exact ⟨hcolumns, written, hwritten, hkeys, v, hv, hdisplay.mpr fun _ _ => by decide⟩

/-- A plus sign is dropped. -/
theorem changes_drop_sign :
    '=' ∉ "code".toList ∧
      ∃ written, ([typed ("code", "+5")].mapM assignment?).map changes = some written ∧
        written.get? "code" = some (.integer 5) ∧ (Value.integer 5).display ≠ "+5" :=
  ⟨by decide, changes [("code", "+5")], by decide, by decide, by decide⟩

end Pairs

end TableSearch.Command
