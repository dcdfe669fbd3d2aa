import Mathlib.Data.Char
import TableSearch.Proofs.Calendar.Instant

/-!
# The order of written date-times

Digits of one number stand in the order of the number, so the written forms of date-times stand in
the order of time wherever those of their years stand in the order of the years
(`compare_write_of_agree`). The years 0 to 9999 do (`yearsAgree_common`). Other years are written
with a sign, which comes before every digit.
-/
namespace TableSearch.Calendar

section Texts

theorem compare_char (c d : Char) : compare c d = compare c.toNat d.toNat := by
  apply compare_congr
  · exact Char.lt_def.mpr
  · exact Char.lt_def.mpr
  · exact Char.toNat_inj.mp

theorem compareOfLessAndEq_cons (c d : Char) (x y : List Char) :
    compareOfLessAndEq (c :: x) (d :: y) = (compare c d).then (compareOfLessAndEq x y) := by
  unfold compareOfLessAndEq
  rcases lt_trichotomy c d with h | rfl | h
  · rw [compare_lt_iff_lt.mpr h, if_pos (List.cons_lt_cons_iff.mpr (.inl h))]
    rfl
  · simp
  · have hne : c ≠ d := (ne_of_lt h).symm
    simp [List.cons_lt_cons_iff, compare_gt_iff_gt.mpr h, not_lt_of_gt h, hne]

theorem compare_ofList (x y : List Char) :
    compare (String.ofList x) (String.ofList y) = compare x y := by
  have h : compare (String.ofList x) (String.ofList y) = compareOfLessAndEq x y := by
    change compareOfLessAndEq _ _ = _
    simp only [compareOfLessAndEq, String.lt_iff, String.toList_ofList, String.ofList_inj]
  rw [h]
  clear h
  induction x generalizing y with
  | nil => cases y <;> rfl
  | cons c x ih =>
    cases y with
    | nil => rfl
    | cons d y => rw [compareOfLessAndEq_cons, List.compare_cons_cons, ih]

theorem compare_append {x y : List Char} (u v : List Char) (h : x.length = y.length) :
    compare (x ++ u) (y ++ v) = (compare x y).then (compare u v) := by
  induction x generalizing y with
  | nil =>
    rw [List.eq_nil_of_length_eq_zero h.symm]
    rfl
  | cons c x ih =>
    cases y with
    | nil => cases h
    | cons d y =>
      rw [List.cons_append, List.cons_append, List.compare_cons_cons, List.compare_cons_cons,
        ih (Nat.succ.inj h), Ordering.then_assoc]

/-- Fields of any width compare before what follows them if they end with a character that is
less than all of theirs. -/
theorem compare_append_cons {c : Char} {x y : List Char} (u v : List Char)
    (hx : ∀ d ∈ x, c < d) (hy : ∀ d ∈ y, c < d) :
    compare (x ++ c :: u) (y ++ c :: v) = (compare x y).then (compare u v) := by
  induction x generalizing y with
  | nil =>
    cases y with
    | nil => simp
    | cons d y =>
      have hlt : compare c d = .lt := compare_lt_iff_lt.mpr (hy d List.mem_cons_self)
      rw [List.nil_append, List.cons_append, List.compare_cons_cons, hlt]
      rfl
  | cons e x ih =>
    cases y with
    | nil =>
      have hgt : compare e c = .gt := compare_gt_iff_gt.mpr (hx e List.mem_cons_self)
      rw [List.nil_append, List.cons_append, List.compare_cons_cons, hgt]
      rfl
    | cons d y =>
      rw [List.cons_append, List.cons_append, List.compare_cons_cons, List.compare_cons_cons,
        ih (fun d h => hx d (.tail _ h)) (fun d h => hy d (.tail _ h)), Ordering.then_assoc]

end Texts

section Digits

theorem compare_ofDigitChars {x y : List Char} (m n : Nat) (hx : x.all Char.isDigit)
    (hy : y.all Char.isDigit) (h : x.length = y.length) :
    compare (Nat.ofDigitChars 10 x m) (Nat.ofDigitChars 10 y n) =
      (compare m n).then (compare x y) := by
  induction x generalizing y m n with
  | nil =>
    rw [List.eq_nil_of_length_eq_zero h.symm]
    simp
  | cons c x ih =>
    cases y with
    | nil => cases h
    | cons d y =>
      rw [List.all_cons, Bool.and_eq_true] at hx hy
      have hc : 48 ≤ c.toNat ∧ c.toNat ≤ 57 := Char.isDigit_iff_toNat.mp hx.1
      have hd : 48 ≤ d.toNat ∧ d.toNat ≤ 57 := Char.isDigit_iff_toNat.mp hy.1
      have hdigit : compare (10 * m + (c.toNat - 48)) (10 * n + (d.toNat - 48)) =
          (compare m n).then (compare c d) := by
        apply compare_eq_then
        · intro h
          have hlt := compare_lt_iff_lt.mp h
          omega
        · intro h
          have hlt := compare_gt_iff_gt.mp h
          omega
        · intro h
          rw [compare_eq_iff_eq.mp h, compare_char]
          apply compare_congr <;> omega
      rw [Nat.ofDigitChars_cons, Nat.ofDigitChars_cons, ih _ _ hx.2 hy.2 (Nat.succ.inj h)]
      change (compare (10 * m + (c.toNat - 48)) (10 * n + (d.toNat - 48))).then _ = _
      rw [hdigit, List.compare_cons_cons, Ordering.then_assoc]

theorem all_isDigit_padded (width n : Nat) : (padded width n).all Char.isDigit := by
  unfold padded
  rw [List.all_append, Text.all_isDigit_toDigits, Bool.and_true, List.all_eq_true]
  intro c hc
  rw [List.eq_of_mem_replicate hc]
  rfl

@[simp] theorem ofDigitChars_padded (width n : Nat) :
    Nat.ofDigitChars 10 (padded width n) 0 = n := by
  simp [padded, Nat.ofDigitChars_append, Nat.ofDigitChars_replicate_zero,
    Nat.ofDigitChars_ten_toDigits]

theorem length_toDigits_le_four {n : Nat} (h : n ≤ 9999) : (Nat.toDigits 10 n).length ≤ 4 :=
  (Nat.length_toDigits_le_iff (by decide) (by decide)).mpr (by omega)

theorem length_toDigits_le_two {n : Nat} (h : n ≤ 99) : (Nat.toDigits 10 n).length ≤ 2 :=
  (Nat.length_toDigits_le_iff (by decide) (by decide)).mpr (by omega)

section Padded

variable {width m n : Nat}

theorem length_padded (h : (Nat.toDigits 10 n).length ≤ width) :
    (padded width n).length = width := by
  simp only [padded, List.length_append, List.length_replicate]
  omega

theorem compare_padded (hm : (Nat.toDigits 10 m).length ≤ width)
    (hn : (Nat.toDigits 10 n).length ≤ width) :
    compare (padded width m) (padded width n) = compare m n := by
  have h := compare_ofDigitChars 0 0 (all_isDigit_padded width m) (all_isDigit_padded width n)
    (by rw [length_padded hm, length_padded hn])
  rw [ofDigitChars_padded, ofDigitChars_padded] at h
  exact h.symm

theorem compare_padded_append (u v : List Char) (hm : (Nat.toDigits 10 m).length ≤ width)
    (hn : (Nat.toDigits 10 n).length ≤ width) :
    compare (padded width m ++ u) (padded width n ++ v) = (compare m n).then (compare u v) := by
  rw [compare_append u v (by rw [length_padded hm, length_padded hn]), compare_padded hm hn]

end Padded

end Digits

section Years

theorem writeYear_common {year : Int} (hpos : 0 ≤ year) (hle : year ≤ 9999) :
    writeYear year = padded 4 year.toNat := by
  simp [writeYear, hpos, hle]

theorem writeYear_negative {year : Int} (h : year < 0) :
    writeYear year = '-' :: padded 4 year.natAbs := by
  have hpos : ¬0 ≤ year := by omega
  simp [writeYear, hpos, h]

theorem writeYear_late {year : Int} (h : 9999 < year) :
    writeYear year = '+' :: padded 4 year.natAbs := by
  have hneg : ¬year < 0 := by omega
  have hle : ¬year ≤ 9999 := by omega
  simp [writeYear, hneg, hle]

theorem exists_padded (n : Nat) :
    ∃ c digits, padded 4 n = c :: digits ∧ c.isDigit ∧ digits.all Char.isDigit := by
  obtain ⟨c, digits, h⟩ := List.exists_cons_of_ne_nil
    (show padded 4 n ≠ [] by simp [padded, Nat.toDigits_ne_nil])
  have hdigits := all_isDigit_padded 4 n
  rw [h, List.all_cons, Bool.and_eq_true] at hdigits
  exact ⟨c, digits, h, hdigits⟩

theorem readNat?_padded (n : Nat) : Text.readNat? (padded 4 n) = some n := by
  obtain ⟨c, digits, h, -⟩ := exists_padded n
  have hne : (padded 4 n).isEmpty = false := by rw [h, List.isEmpty_cons]
  simp [Text.readNat?, hne, all_isDigit_padded]

theorem writeYear_cases (year : Int) :
    (∃ n : Nat, n ≤ 9999 ∧ year = n ∧ writeYear year = padded 4 n) ∨
      (∃ n : Nat, year = -n ∧ writeYear year = '-' :: padded 4 n) ∨
      ∃ n : Nat, year = n ∧ writeYear year = '+' :: padded 4 n := by
  by_cases hneg : year < 0
  · exact .inr (.inl ⟨year.natAbs, by omega, writeYear_negative hneg⟩)
  by_cases hle : year ≤ 9999
  · exact .inl ⟨year.toNat, by omega, by omega, writeYear_common (by omega) hle⟩
  · exact .inr (.inr ⟨year.natAbs, by omega, writeYear_late (by omega)⟩)

theorem readInteger?_writeYear (year : Int) : Text.readInteger? (writeYear year) = some year := by
  rcases writeYear_cases year with ⟨n, -, rfl, hwritten⟩ | ⟨n, rfl, hwritten⟩ | ⟨n, rfl, hwritten⟩
  · obtain ⟨c, digits, h, hdigit, -⟩ := exists_padded n
    rw [hwritten, h, Text.readInteger?_of_digit hdigit, ← h, readNat?_padded]
    rfl
  · rw [hwritten]
    simp only [Text.readInteger?, readNat?_padded]
    rfl
  · rw [hwritten]
    change (Text.readNat? (padded 4 n)).map Int.ofNat = some (n : Int)
    rw [readNat?_padded]
    rfl

theorem writeYear_injective : Function.Injective writeYear := by
  intro a b h
  have hread := readInteger?_writeYear a
  rw [h, readInteger?_writeYear] at hread
  exact (Option.some.inj hread).symm

theorem exists_writeYear (year : Int) :
    ∃ c digits, writeYear year = c :: digits ∧ digits.all Char.isDigit := by
  rcases writeYear_cases year with ⟨n, -, -, hwritten⟩ | ⟨n, -, hwritten⟩ | ⟨n, -, hwritten⟩
  · obtain ⟨c, digits, h, -, hdigits⟩ := exists_padded n
    exact ⟨c, digits, hwritten.trans h, hdigits⟩
  · exact ⟨_, _, hwritten, all_isDigit_padded 4 n⟩
  · exact ⟨_, _, hwritten, all_isDigit_padded 4 n⟩

theorem dash_lt_of_all_isDigit {digits : List Char} (h : digits.all Char.isDigit) :
    ∀ d ∈ digits, '-' < d := by
  intro d hd
  have hdigit : 48 ≤ d.toNat ∧ d.toNat ≤ 57 :=
    Char.isDigit_iff_toNat.mp (List.all_eq_true.mp h d hd)
  apply Char.lt_def.mpr
  change 45 < d.toNat
  omega

theorem compare_writeYear_append (a b : Int) (u v : List Char) :
    compare (writeYear a ++ '-' :: u) (writeYear b ++ '-' :: v) =
      (compare (writeYear a) (writeYear b)).then (compare u v) := by
  obtain ⟨c, x, ha, hx⟩ := exists_writeYear a
  obtain ⟨d, y, hb, hy⟩ := exists_writeYear b
  rw [ha, hb, List.cons_append, List.cons_append, List.compare_cons_cons,
    compare_append_cons u v (dash_lt_of_all_isDigit hx) (dash_lt_of_all_isDigit hy),
    List.compare_cons_cons, Ordering.then_assoc]

/-- The written forms of two years stand in the order of the years. -/
def YearsAgree (a b : Int) : Prop := compare (writeYear a) (writeYear b) = compare a b

instance (a b : Int) : Decidable (YearsAgree a b) := inferInstanceAs (Decidable (_ = _))

theorem yearsAgree_self (year : Int) : YearsAgree year year := by
  unfold YearsAgree
  rw [Std.ReflOrd.compare_self, Std.ReflOrd.compare_self]

theorem yearsAgree_symm {a b : Int} (h : YearsAgree a b) : YearsAgree b a := by
  unfold YearsAgree
  rw [Std.OrientedOrd.eq_swap (a := writeYear b), h, ← Std.OrientedOrd.eq_swap]

theorem yearsAgree_common {a b : Int} (ha : 0 ≤ a) (ha' : a ≤ 9999) (hb : 0 ≤ b)
    (hb' : b ≤ 9999) : YearsAgree a b := by
  unfold YearsAgree
  rw [writeYear_common ha ha', writeYear_common hb hb',
    compare_padded (length_toDigits_le_four (by omega)) (length_toDigits_le_four (by omega))]
  apply compare_congr <;> omega

/-- Years whose written forms do not stand in their order stand in the opposite order. -/
theorem compare_writeYear_of_not_agree {a b : Int} (h : ¬YearsAgree a b) :
    compare (writeYear a) (writeYear b) = compare b a := by
  have hne : a ≠ b := by
    rintro rfl
    exact h (yearsAgree_self a)
  have hwritten : compare (writeYear a) (writeYear b) ≠ .eq := by
    intro heq
    exact hne (writeYear_injective (Std.LawfulEqOrd.eq_of_compare heq))
  have hyears : compare a b ≠ .eq := compare_eq_iff_eq.not.mpr hne
  unfold YearsAgree at h
  rw [Std.OrientedOrd.eq_swap (a := b)]
  cases hw : compare (writeYear a) (writeYear b) <;> cases hy : compare a b <;> simp_all

end Years

theorem compare_cons_self (c : Char) (x y : List Char) :
    compare (c :: x) (c :: y) = compare x y := by
  rw [List.compare_cons_cons, compare_eq_iff_eq.mpr rfl]
  rfl

namespace DateTime

variable {a b : DateTime}

/-- Written date-times stand in the order of their fields, the years in that of their texts. -/
theorem compare_write (ha : a.Valid) (hb : b.Valid) :
    compare a.write b.write =
      compareFields (compare (writeYear a.date.year) (writeYear b.date.year)) a b := by
  have hmonth := length_toDigits_le_two (ha.date.month_le.trans (by decide))
  have hmonth' := length_toDigits_le_two (hb.date.month_le.trans (by decide))
  have hday := length_toDigits_le_two (ha.date.day_le_thirty_one.trans (by decide))
  have hday' := length_toDigits_le_two (hb.date.day_le_thirty_one.trans (by decide))
  have hhour := length_toDigits_le_two (ha.hour_le.trans (by decide))
  have hhour' := length_toDigits_le_two (hb.hour_le.trans (by decide))
  have hminute := length_toDigits_le_two (ha.minute_le.trans (by decide))
  have hminute' := length_toDigits_le_two (hb.minute_le.trans (by decide))
  have hsecond := length_toDigits_le_two (ha.second_le.trans (by decide))
  have hsecond' := length_toDigits_le_two (hb.second_le.trans (by decide))
  unfold write Date.write compareFields
  rw [compare_ofList]
  simp only [List.append_assoc, List.cons_append, compare_writeYear_append]
  rw [compare_padded_append _ _ hmonth hmonth', compare_cons_self,
    compare_padded_append _ _ hday hday', compare_cons_self,
    compare_padded_append _ _ hhour hhour', compare_cons_self,
    compare_padded_append _ _ hminute hminute', compare_cons_self,
    compare_padded hsecond hsecond']

theorem write_inj (ha : a.Valid) (hb : b.Valid) : a.write = b.write ↔ a = b := by
  constructor
  · intro h
    have hcompare := compare_write ha hb
    rw [h, Std.ReflOrd.compare_self] at hcompare
    refine eq_of_compareFields ?_ hcompare.symm
    intro hyear
    exact writeYear_injective (Std.LawfulEqOrd.eq_of_compare hyear)
  · rintro rfl
    rfl

theorem compare_write_of_agree (ha : a.Valid) (hb : b.Valid)
    (h : YearsAgree a.date.year b.date.year) : compare a.write b.write = compare a b := by
  rw [compare_write ha hb, h, compare_eq ha hb]

theorem compare_write_of_not_agree (ha : a.Valid) (hb : b.Valid)
    (h : ¬YearsAgree a.date.year b.date.year) : compare a.write b.write = compare b a := by
  rw [compare_write ha hb, compare_writeYear_of_not_agree h, compare_eq hb ha]
  cases hyear : compare b.date.year a.date.year with
  | lt => rfl
  | gt => rfl
  | eq =>
    rw [compare_eq_iff_eq.mp hyear] at h
    exact absurd (yearsAgree_self _) h

/-- The order of the written forms: that of time for years that are written in their order, and
the opposite one for others. -/
def WrittenBefore (a b : DateTime) : Prop :=
  if YearsAgree a.date.year b.date.year then a < b else b < a

theorem compare_write_eq_lt_iff (ha : a.Valid) (hb : b.Valid) :
    compare a.write b.write = .lt ↔ a.WrittenBefore b := by
  unfold WrittenBefore
  split
  · rename_i h
    rw [compare_write_of_agree ha hb h]
    rfl
  · rename_i h
    rw [compare_write_of_not_agree ha hb h]
    rfl

theorem compare_write_eq_gt_iff (ha : a.Valid) (hb : b.Valid) :
    compare a.write b.write = .gt ↔ b.WrittenBefore a := by
  rw [Std.OrientedCmp.gt_iff_lt]
  exact compare_write_eq_lt_iff hb ha

theorem writtenBefore_iff (h : YearsAgree a.date.year b.date.year) :
    a.WrittenBefore b ↔ a < b := by
  rw [WrittenBefore, if_pos h]

end DateTime

end TableSearch.Calendar
