import Mathlib.Order.Monotone.Basic
import Mathlib.Algebra.Order.Group.Int
import Mathlib.Algebra.Order.Monoid.Unbundled.Basic
import TableSearch.Calendar.Date

/-!
# Day numbers

Months are counted through from March of the year zero, so that a leap day is the last day of its
year. The number of a day is the number of its month's first day and the days since then, and days
are numbered in the order of year, month and day (`Date.compare_toDays`). Every number is that of
a day of the calendar (`Date.toDays_ofDays`).
-/
namespace TableSearch.Calendar

/-- A month of a year, and a day of that month. -/
structure Date.Valid (d : Date) : Prop where
  one_le_month : 1 ≤ d.month
  month_le : d.month ≤ 12
  one_le_day : 1 ≤ d.day
  day_le : d.day ≤ daysInMonth d.year d.month

/-- The days before a year that begins in March. -/
def yearStart (year : Int) : Int := 365 * year + year / 4 - year / 100 + year / 400

/-- The days before a month in a year that begins in March, which is month 0. -/
def monthStart (month : Int) : Int := (153 * month + 2) / 5

/-- The number of a month, counted from March of the year zero. -/
def monthNumber (year : Int) (month : Nat) : Int := 12 * year + month - 3

/-- The days before a month, counted from March of the year zero. -/
def daysBefore (number : Int) : Int := yearStart (number / 12) + monthStart (number % 12)

theorem compare_eq_then {α : Type} [LinearOrder α] {x y : α} {first second : Ordering}
    (hlt : first = .lt → x < y) (hgt : first = .gt → y < x)
    (heq : first = .eq → compare x y = second) : compare x y = first.then second := by
  cases first with
  | lt => exact compare_lt_iff_lt.mpr (hlt rfl)
  | eq => exact heq rfl
  | gt => exact compare_gt_iff_gt.mpr (hgt rfl)

theorem compare_congr {α β : Type} [LinearOrder α] [LinearOrder β] {x y : α} {u v : β}
    (hlt : u < v → x < y) (hgt : v < u → y < x) (heq : u = v → x = y) :
    compare x y = compare u v := by
  rcases lt_trichotomy u v with h | h | h
  · rw [compare_lt_iff_lt.mpr h, compare_lt_iff_lt.mpr (hlt h)]
  · rw [compare_eq_iff_eq.mpr h, compare_eq_iff_eq.mpr (heq h)]
  · rw [compare_gt_iff_gt.mpr h, compare_gt_iff_gt.mpr (hgt h)]

section Months

variable {year : Int} {month : Nat}

theorem yearStart_succ (year : Int) :
    yearStart (year + 1) = yearStart year + if isLeapYear (year + 1) then 366 else 365 := by
  unfold yearStart
  split
  · rename_i h
    simp only [isLeapYear, Bool.and_eq_true, Bool.or_eq_true, beq_iff_eq, bne_iff_ne] at h
    omega
  · rename_i h
    simp only [isLeapYear, Bool.and_eq_true, Bool.or_eq_true, beq_iff_eq, bne_iff_ne] at h
    omega

theorem monthStart_succ (year : Int) (hpos : 1 ≤ month) (hle : month ≤ 12) (h : month ≠ 2) :
    monthStart ((month + 9) % 12 + 1) =
      monthStart ((month + 9) % 12) + daysInMonth year month := by
  have hcases : month = 1 ∨ month = 3 ∨ month = 4 ∨ month = 5 ∨ month = 6 ∨ month = 7 ∨
      month = 8 ∨ month = 9 ∨ month = 10 ∨ month = 11 ∨ month = 12 := by omega
  rcases hcases with rfl | rfl | rfl | rfl | rfl | rfl | rfl | rfl | rfl | rfl | rfl <;> rfl

theorem daysBefore_succ (year : Int) (hpos : 1 ≤ month) (hle : month ≤ 12) :
    daysBefore (monthNumber year month + 1) =
      daysBefore (monthNumber year month) + daysInMonth year month := by
  unfold daysBefore monthNumber
  by_cases h : month = 2
  · subst h
    have hyear : (12 * year + (2 : Nat) - 3) / 12 = year - 1 := by omega
    have hmonth : (12 * year + (2 : Nat) - 3) % 12 = 11 := by omega
    have hyear' : (12 * year + (2 : Nat) - 3 + 1) / 12 = year := by omega
    have hmonth' : (12 * year + (2 : Nat) - 3 + 1) % 12 = 0 := by omega
    have hstart := yearStart_succ (year - 1)
    rw [Int.sub_add_cancel] at hstart
    rw [hyear, hmonth, hyear', hmonth', hstart]
    unfold daysInMonth monthStart
    split <;> simp [*] <;> omega
  · have hyear : (12 * year + month - 3 + 1) / 12 = (12 * year + month - 3) / 12 := by omega
    have hmonth : (12 * year + month - 3) % 12 = ((month : Int) + 9) % 12 := by omega
    have hmonth' : (12 * year + month - 3 + 1) % 12 = ((month : Int) + 9) % 12 + 1 := by omega
    rw [hyear, hmonth, hmonth', monthStart_succ year hpos hle h, Int.add_assoc]

theorem daysInMonth_le (year : Int) (month : Nat) : daysInMonth year month ≤ 31 := by
  unfold daysInMonth
  split
  · split <;> decide
  · split <;> decide

theorem exists_monthNumber (number : Int) :
    ∃ year month, 1 ≤ month ∧ month ≤ 12 ∧ monthNumber year month = number :=
  ⟨(number + 2) / 12, ((number + 2) % 12 + 1).toNat, by omega, by omega, by
    unfold monthNumber
    omega⟩

theorem daysBefore_mono {a b : Int} (h : a ≤ b) : daysBefore a ≤ daysBefore b := by
  apply monotone_int_of_le_succ _ h
  intro number
  obtain ⟨year, month, hpos, hle, rfl⟩ := exists_monthNumber number
  rw [daysBefore_succ year hpos hle]
  omega

end Months

namespace Date

theorem Valid.day_le_thirty_one {d : Date} (h : d.Valid) : d.day ≤ 31 :=
  h.day_le.trans (daysInMonth_le d.year d.month)

theorem toDays_eq {d : Date} (h : d.Valid) :
    d.toDays = daysBefore (monthNumber d.year d.month) + d.day - 719469 := by
  have hpos := h.one_le_month
  have hle := h.month_le
  unfold toDays daysBefore monthNumber yearStart monthStart
  dsimp only
  have hmonth : (12 * d.year + d.month - 3) % 12 = ((d.month : Int) + 9) % 12 := by omega
  rw [hmonth]
  split
  · have hyear : (12 * d.year + d.month - 3) / 12 = d.year - 1 := by omega
    rw [hyear]
    omega
  · have hyear : (12 * d.year + d.month - 3) / 12 = d.year := by omega
    rw [hyear]
    omega

theorem toDays_lt_of_monthNumber_lt {a b : Date} (ha : a.Valid) (hb : b.Valid)
    (h : monthNumber a.year a.month < monthNumber b.year b.month) : a.toDays < b.toDays := by
  have hmono := daysBefore_mono (Int.add_one_le_iff.mpr h)
  rw [daysBefore_succ a.year ha.one_le_month ha.month_le] at hmono
  have hday := ha.day_le
  have hday' := hb.one_le_day
  rw [toDays_eq ha, toDays_eq hb]
  omega

/-- The order of year, month and day. -/
def order (a b : Date) : Ordering :=
  (compare a.year b.year).then ((compare a.month b.month).then (compare a.day b.day))

theorem compare_monthNumber {a b : Date} (ha : a.Valid) (hb : b.Valid) :
    compare (monthNumber a.year a.month) (monthNumber b.year b.month) =
      (compare a.year b.year).then (compare a.month b.month) := by
  have hpos := ha.one_le_month
  have hle := ha.month_le
  have hpos' := hb.one_le_month
  have hle' := hb.month_le
  unfold monthNumber
  apply compare_eq_then
  · intro h
    have hyear := compare_lt_iff_lt.mp h
    omega
  · intro h
    have hyear := compare_gt_iff_gt.mp h
    omega
  · intro h
    have hyear := compare_eq_iff_eq.mp h
    apply compare_congr <;> omega

/-- Days are numbered in the order of year, month and day. -/
theorem compare_toDays {a b : Date} (ha : a.Valid) (hb : b.Valid) :
    compare a.toDays b.toDays = a.order b := by
  rw [order, ← Ordering.then_assoc, ← compare_monthNumber ha hb]
  apply compare_eq_then
  · intro h
    exact toDays_lt_of_monthNumber_lt ha hb (compare_lt_iff_lt.mp h)
  · intro h
    exact toDays_lt_of_monthNumber_lt hb ha (compare_gt_iff_gt.mp h)
  · intro h
    rw [toDays_eq ha, toDays_eq hb, compare_eq_iff_eq.mp h]
    apply compare_congr <;> omega

end Date

section Numbers

/-- A day of a cycle of 400 years that is not the last one: its century, its span of four years in
that century, and the days from then on. -/
theorem exists_century {n : Int} (hpos : 0 ≤ n) (hlt : n < 146096) :
    ∃ century span day : Int, n = 36524 * century + 1461 * span + day ∧
      0 ≤ century ∧ century ≤ 3 ∧ 0 ≤ span ∧ span ≤ 24 ∧ 0 ≤ day ∧ day ≤ 1460 ∧
      (span = 24 → day ≤ 1459) :=
  ⟨n / 36524, n % 36524 / 1461, n % 36524 % 1461, by omega, by omega, by omega, by omega,
    by omega, by omega, by omega, by omega⟩

def yearOfEra (n : Int) : Int := (n - n / 1460 + n / 36524 - n / 146096) / 365

theorem yearOfEra_bounds {n : Int} (hpos : 0 ≤ n) (hlt : n < 146097) :
    0 ≤ yearOfEra n ∧ yearOfEra n < 400 ∧ yearStart (yearOfEra n) ≤ n ∧
      n < yearStart (yearOfEra n + 1) := by
  by_cases hlast : n = 146096
  · subst hlast
    decide
  obtain ⟨century, span, day, hn, hc, hc', hs, hs', hd, hd', hshort⟩ :=
    exists_century hpos (by omega)
  have hcentury : n / 36524 = century := by omega
  have hcycle : n / 146096 = 0 := by omega
  -- the leap days before the day are counted one too high at most at the end of a span
  have hleap : n - n / 1460 = 36499 * century + 1460 * span + day ∧ day ≤ 1459 ∨
      n - n / 1460 = 36499 * century + 1460 * span + day - 1 ∧ 1364 ≤ day := by omega
  obtain ⟨t, hyear, ht, ht', hday, hday'⟩ : ∃ t, yearOfEra n = 100 * century + 4 * span + t ∧
      0 ≤ t ∧ t ≤ 3 ∧ 365 * t ≤ day ∧ (t < 3 → day < 365 * (t + 1)) := by
    refine ⟨yearOfEra n - 100 * century - 4 * span, by omega, ?_⟩
    unfold yearOfEra
    omega
  have hspans : yearOfEra n / 4 = 25 * century + span := by omega
  have hcenturies : yearOfEra n / 100 = century := by omega
  have hcycles : yearOfEra n / 400 = 0 := by omega
  have hstart : yearStart (yearOfEra n) = 36524 * century + 1461 * span + 365 * t := by
    unfold yearStart
    omega
  have hnext := yearStart_succ (yearOfEra n)
  refine ⟨by omega, by omega, by omega, ?_⟩
  rw [hnext, hstart]
  split
  · omega
  · rename_i hl
    simp only [isLeapYear, Bool.and_eq_true, Bool.or_eq_true, beq_iff_eq, bne_iff_ne] at hl
    omega

def monthOfYear (n : Int) : Int := (5 * n + 2) / 153

theorem monthOfYear_bounds {n : Int} (hpos : 0 ≤ n) (hlt : n < 366) :
    0 ≤ monthOfYear n ∧ monthOfYear n ≤ 11 ∧ monthStart (monthOfYear n) ≤ n ∧
      n < monthStart (monthOfYear n + 1) := by
  unfold monthOfYear monthStart
  omega

theorem daysBefore_month {year month : Int} (hpos : 0 ≤ month) (hle : month ≤ 11) :
    daysBefore (12 * year + month) = yearStart year + monthStart month := by
  have hyear : (12 * year + month) / 12 = year := by omega
  have hmonth : (12 * year + month) % 12 = month := by omega
  rw [daysBefore, hyear, hmonth]

theorem yearStart_add_era (year era : Int) :
    yearStart (year + era * 400) = yearStart year + era * 146097 := by
  unfold yearStart
  omega

/-- A date whose year begins in March, as a date whose year begins in January. -/
def ofShifted (year month day : Int) : Date :=
  ⟨if month < 10 then year else year + 1, (if month < 10 then month + 3 else month - 9).toNat,
    day.toNat⟩

theorem monthNumber_ofShifted {month : Int} (year day : Int) (hpos : 0 ≤ month) (hle : month ≤ 11) :
    1 ≤ (ofShifted year month day).month ∧ (ofShifted year month day).month ≤ 12 ∧
      monthNumber (ofShifted year month day).year (ofShifted year month day).month =
        12 * year + month := by
  unfold ofShifted monthNumber
  dsimp only
  split <;> omega

theorem ofShifted_spec {year month day : Int} (hpos : 0 ≤ month) (hle : month ≤ 11)
    (hday : 1 ≤ day) (hlast : yearStart year + monthStart month + day ≤
      daysBefore (12 * year + month + 1)) :
    (ofShifted year month day).Valid ∧ (ofShifted year month day).toDays =
      yearStart year + monthStart month + day - 719469 := by
  obtain ⟨hone, htwelve, hnumber⟩ := monthNumber_ofShifted year day hpos hle
  have hday' : ((ofShifted year month day).day : Int) = day := Int.toNat_of_nonneg (by omega)
  have hsucc := daysBefore_succ (ofShifted year month day).year hone htwelve
  rw [hnumber, daysBefore_month hpos hle] at hsucc
  have hvalid : (ofShifted year month day).Valid := ⟨hone, htwelve, by omega, by omega⟩
  refine ⟨hvalid, ?_⟩
  rw [Date.toDays_eq hvalid, hnumber, daysBefore_month hpos hle, hday']

theorem le_daysBefore_succ {month : Int} (year day : Int) (hpos : 0 ≤ month) (hle : month ≤ 11)
    (hmonth : day ≤ monthStart (month + 1)) (hyear : yearStart year + day ≤ yearStart (year + 1)) :
    yearStart year + day ≤ daysBefore (12 * year + month + 1) := by
  by_cases h : month = 11
  · have hnext : daysBefore (12 * year + month + 1) = daysBefore (12 * (year + 1) + 0) := by
      congr 1
      omega
    rw [hnext, daysBefore_month (by decide) (by decide)]
    change _ ≤ yearStart (year + 1) + 0
    omega
  · rw [Int.add_assoc, daysBefore_month (by omega) (by omega)]
    omega

theorem ofDays_eq (n : Int) :
    ∃ year month day : Int, Date.ofDays n = ofShifted year month day ∧ 0 ≤ month ∧ month ≤ 11 ∧
      1 ≤ day ∧ yearStart year + monthStart month + day = n + 719469 ∧
      n + 719469 ≤ daysBefore (12 * year + month + 1) := by
  obtain ⟨era, hera⟩ : ∃ era, era = (n + 719468) / 146097 := ⟨_, rfl⟩
  obtain ⟨rest, hrest⟩ : ∃ rest, rest = n + 719468 - era * 146097 := ⟨_, rfl⟩
  obtain ⟨year, hyear⟩ : ∃ year, year = yearOfEra rest := ⟨_, rfl⟩
  obtain ⟨day, hday⟩ : ∃ day, day = rest - (365 * year + year / 4 - year / 100) := ⟨_, rfl⟩
  obtain ⟨month, hmonth⟩ : ∃ month, month = monthOfYear day := ⟨_, rfl⟩
  obtain ⟨hyear0, hyear400, hstart, hnext⟩ :=
    yearOfEra_bounds (show 0 ≤ rest by omega) (show rest < 146097 by omega)
  rw [← hyear] at hyear0 hyear400 hstart hnext
  have hyearStart : yearStart year = rest - day := by
    unfold yearStart
    omega
  have hlength := yearStart_succ year
  have hlt : day < 366 := by
    split at hlength <;> omega
  obtain ⟨hmonth0, hmonth11, hbegin, hend⟩ := monthOfYear_bounds (show 0 ≤ day by omega) hlt
  rw [← hmonth] at hmonth0 hmonth11 hbegin hend
  refine ⟨year + era * 400, month, day - monthStart month + 1, ?_, hmonth0, hmonth11, by omega,
    ?_, ?_⟩
  · have hparts : Date.ofDays n =
        ⟨if (if month < 10 then month + 3 else month - 9) ≤ 2 then year + era * 400 + 1
          else year + era * 400,
          (if month < 10 then month + 3 else month - 9).toNat,
          (day - monthStart month + 1).toNat⟩ := by
      subst hmonth hday hyear hrest hera
      rfl
    rw [hparts, ofShifted]
    by_cases h : month < 10
    · rw [if_pos h, if_pos h, if_neg (by omega)]
    · rw [if_neg h, if_neg h, if_pos (by omega)]
  · rw [yearStart_add_era]
    omega
  · have hstart' := yearStart_add_era year era
    have hnext' : yearStart (year + era * 400 + 1) = yearStart (year + 1) + era * 146097 := by
      rw [← yearStart_add_era]
      congr 1
      omega
    have hle := le_daysBefore_succ (year + era * 400) (day + 1) hmonth0 hmonth11 (by omega)
      (by omega)
    omega

end Numbers

theorem Date.ofDays_valid (n : Int) : (ofDays n).Valid := by
  obtain ⟨year, month, day, heq, hmonth, hmonth', hday, hnumber, hlast⟩ := ofDays_eq n
  rw [heq]
  exact (ofShifted_spec hmonth hmonth' hday (by omega)).1

/-- Every number is that of a day. -/
theorem Date.toDays_ofDays (n : Int) : (ofDays n).toDays = n := by
  obtain ⟨year, month, day, heq, hmonth, hmonth', hday, hnumber, hlast⟩ := ofDays_eq n
  rw [heq, (ofShifted_spec hmonth hmonth' hday (by omega)).2]
  omega

end TableSearch.Calendar
