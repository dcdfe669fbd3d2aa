import Mathlib.Algebra.Group.Nat.Defs
import TableSearch.Calendar.Reading
import TableSearch.Proofs.Calendar.Days
import TableSearch.Proofs.Digits

/-!
# The order of time

Date-times are ordered by their minute and by the second in it, so that a leap second comes after
every other second of its minute. This is the order of their fields, from the year to the second
(`DateTime.compare_eq`). What is read as a date-time is one of the calendar and the clock
(`readDateTime?_valid`).
-/
namespace TableSearch.Calendar

namespace DateTime

/-- A date of the calendar and a time of day, with room for a leap second. -/
structure Valid (t : DateTime) : Prop where
  date : t.date.Valid
  hour_le : t.hour ≤ 23
  minute_le : t.minute ≤ 59
  second_le : t.second ≤ 60

/-- The minutes from 1970-01-01 00:00 to the minute of a date-time. -/
def minutes (t : DateTime) : Int := t.date.toDays * 1440 + t.hour * 60 + t.minute

instance : Ord DateTime where
  compare a b := (compare a.minutes b.minutes).then (compare a.second b.second)

instance : LT DateTime := ltOfOrd

instance : LE DateTime := leOfOrd

instance : DecidableLT DateTime := fun a b => inferInstanceAs (Decidable (compare a b = .lt))

instance : DecidableLE DateTime := fun a b => inferInstanceAs (Decidable ((compare a b).isLE))

instance : Min DateTime := minOfLe

instance : Max DateTime := maxOfLe

section Order

variable {a b c : DateTime}

instance : Std.TransOrd DateTime :=
  inferInstanceAs (Std.TransCmp (compareLex (compareOn minutes) (compareOn second)))

theorem not_lt_iff : ¬a < b ↔ b ≤ a := by
  change ¬compare a b = .lt ↔ (compare b a).isLE
  rw [Std.OrientedOrd.eq_swap (a := b)]
  cases compare a b <;> decide

theorem le_of_not_le (h : ¬a ≤ b) : b ≤ a :=
  Ordering.isLE_of_eq_lt (Std.OrientedCmp.lt_of_not_isLE h)

theorem min_le_iff : min a b ≤ c ↔ a ≤ c ∨ b ≤ c := by
  change (if a ≤ b then a else b) ≤ c ↔ _
  split
  · rename_i h
    exact ⟨.inl, fun hle => hle.elim id (Std.TransCmp.isLE_trans h)⟩
  · rename_i h
    exact ⟨.inr, fun hle => hle.elim (Std.TransCmp.isLE_trans (le_of_not_le h)) id⟩

theorem le_max_iff : c ≤ max a b ↔ c ≤ a ∨ c ≤ b := by
  change c ≤ (if a ≤ b then b else a) ↔ _
  split
  · rename_i h
    exact ⟨.inr, fun hle => hle.elim (Std.TransCmp.isLE_trans · h) id⟩
  · rename_i h
    exact ⟨.inl, fun hle => hle.elim id (Std.TransCmp.isLE_trans · (le_of_not_le h))⟩

end Order

section Fields

variable {a b : DateTime}

/-- The order of fields, the years being in the order `years`. -/
def compareFields (years : Ordering) (a b : DateTime) : Ordering :=
  years.then ((compare a.date.month b.date.month).then ((compare a.date.day b.date.day).then
    ((compare a.hour b.hour).then ((compare a.minute b.minute).then
      (compare a.second b.second)))))

theorem compare_minutes (ha : a.Valid) (hb : b.Valid) :
    compare a.minutes b.minutes =
      (compare a.date.toDays b.date.toDays).then
        ((compare a.hour b.hour).then (compare a.minute b.minute)) := by
  have hhour := ha.hour_le
  have hhour' := hb.hour_le
  have hminute := ha.minute_le
  have hminute' := hb.minute_le
  unfold minutes
  apply compare_eq_then
  · intro h
    have hdays := compare_lt_iff_lt.mp h
    omega
  · intro h
    have hdays := compare_gt_iff_gt.mp h
    omega
  · intro h
    rw [compare_eq_iff_eq.mp h]
    apply compare_eq_then
    · intro h
      have hhours := compare_lt_iff_lt.mp h
      omega
    · intro h
      have hhours := compare_gt_iff_gt.mp h
      omega
    · intro h
      rw [compare_eq_iff_eq.mp h]
      apply compare_congr <;> omega

theorem compare_eq (ha : a.Valid) (hb : b.Valid) :
    compare a b = compareFields (compare a.date.year b.date.year) a b := by
  change (compare a.minutes b.minutes).then (compare a.second b.second) = _
  rw [compare_minutes ha hb, Date.compare_toDays ha.date hb.date]
  simp only [Date.order, compareFields, Ordering.then_assoc]

theorem eq_of_compareFields {years : Ordering} (hyear : years = .eq → a.date.year = b.date.year)
    (h : compareFields years a b = .eq) : a = b := by
  simp only [compareFields, Ordering.then_eq_eq, compare_eq_iff_eq] at h
  obtain ⟨years, month, day, hour, minute, second⟩ := h
  have hyear := hyear years
  obtain ⟨⟨_, _, _⟩, _, _, _⟩ := a
  obtain ⟨⟨_, _, _⟩, _, _, _⟩ := b
  simp_all

end Fields

section Seconds

variable {n : Int} {t : DateTime}

theorem eq_of_ofSeconds? (h : ofSeconds? n = some t) :
    t = ⟨Date.ofDays (n / 86400), (n % 86400).toNat / 3600, (n % 86400).toNat / 60 % 60,
      (n % 86400).toNat % 60⟩ := by
  unfold ofSeconds? at h
  obtain ⟨-, heq⟩ := Option.ite_none_right_eq_some.mp h
  exact (Option.some.inj heq).symm

theorem ofSeconds?_valid (h : ofSeconds? n = some t) : t.Valid := by
  rw [eq_of_ofSeconds? h]
  exact ⟨Date.ofDays_valid _, by dsimp only; omega, by dsimp only; omega, by dsimp only; omega⟩

end Seconds

theorem minusMinutes_valid {t : DateTime} (ht : t.Valid) (n : Int) : (t.minusMinutes n).Valid := by
  refine ⟨Date.ofDays_valid _, ?_, ?_, ht.second_le⟩
  · simp only [minusMinutes]
    omega
  · simp only [minusMinutes]
    omega

end DateTime

theorem Date.of?_valid {year : Int} {month day : Nat} {d : Date}
    (h : Date.of? year month day = some d) : d.Valid := by
  unfold Date.of? at h
  obtain ⟨hfits, heq⟩ := Option.ite_none_right_eq_some.mp h
  cases heq
  simp only [Bool.and_eq_true, decide_eq_true_eq] at hfits
  obtain ⟨⟨⟨⟨-, hone⟩, htwelve⟩, hday⟩, hlast⟩ := hfits
  exact ⟨hone, htwelve, hday, hlast⟩

theorem DateTime.of?_valid {year : Int} {month day hour minute second : Nat} {t : DateTime}
    (h : DateTime.of? year month day hour minute second = some t) : t.Valid := by
  unfold DateTime.of? at h
  obtain ⟨hclock, heq⟩ := Option.ite_none_right_eq_some.mp h
  obtain ⟨date, hdate, rfl⟩ := Option.map_eq_some_iff.mp heq
  simp only [Bool.and_eq_true, decide_eq_true_eq] at hclock
  exact ⟨Date.of?_valid hdate, hclock.1.1, hclock.1.2, hclock.2⟩

theorem DateTime.of?_midnight {year : Int} {month day : Nat} {d : Date}
    (h : Date.of? year month day = some d) : DateTime.of? year month day 0 0 0 = some d.midnight :=
  congrArg (Option.map Date.midnight) h

namespace Reading

variable {cs rest : List Char} {t : DateTime}

theorem number?_lt {least most n : Nat} (h : number? least most cs = some (n, rest)) :
    n < 10 ^ most := by
  unfold number? at h
  dsimp only at h
  split at h
  · cases h
  · cases h
    refine (Text.ofDigitChars_lt List.all_takeWhile 0).trans_le ?_
    rw [Nat.zero_add, Nat.mul_one]
    apply Nat.pow_le_pow_right (by decide)
    exact (List.takeWhile_prefix _).length_le.trans (List.length_take_le _ _)

theorem date?_cases {d : Date} (h : date? cs = some (d, rest)) :
    ∃ year month day, Date.of? year month day = some d := by
  simp only [date?, Option.bind_eq_bind, Option.pure_def, Option.bind_eq_some_iff,
    Option.some.injEq, Prod.mk.injEq, Prod.exists] at h
  obtain ⟨year, _, -, _, -, month, _, -, _, -, day, _, -, _, hdate, rfl, -⟩ := h
  exact ⟨year, month, day, hdate⟩

theorem dateTime?_cases (h : dateTime? cs = some t) :
    ∃ year month day hour minute second,
      DateTime.of? year month day hour minute second = some t := by
  simp only [dateTime?, Option.bind_eq_bind, Option.bind_eq_some_iff, Prod.exists,
    Option.ite_none_right_eq_some] at h
  obtain ⟨_, _, -, _, _, -, _, -, _, _, -, _, -, _, _, -, -, hfields⟩ := h
  exact ⟨_, _, _, _, _, _, hfields⟩

theorem dateOnly?_cases (h : dateOnly? cs = some t) :
    ∃ year month day, DateTime.of? year month day 0 0 0 = some t := by
  simp only [dateOnly?, Option.bind_eq_bind, Option.bind_eq_some_iff, Prod.exists,
    Option.ite_none_right_eq_some, Option.some.injEq] at h
  obtain ⟨_, _, hdate, -, rfl⟩ := h
  obtain ⟨year, month, day, hfields⟩ := date?_cases hdate
  exact ⟨year, month, day, DateTime.of?_midnight hfields⟩

theorem offset?_bounds {offset : Int} (h : offset? cs = some offset) :
    -1439 ≤ offset ∧ offset ≤ 1439 := by
  unfold offset? at h
  split at h
  · cases h
    decide
  · cases h
    decide
  · simp only [Option.bind_eq_bind] at h
    split at h
    on_goal 2 => split at h
    on_goal 3 => cases h
    all_goals
      simp only [Option.bind_eq_some_iff, Prod.exists, Option.ite_none_right_eq_some,
        Option.some.injEq, Bool.and_eq_true, decide_eq_true_eq] at h
      obtain ⟨_, -, hours, _, -, _, -, minutes, _, -, ⟨⟨-, hhours⟩, hminutes⟩, rfl⟩ := h
      split <;> omega
  · cases h

theorem strict?_cases (h : strict? cs = some t) :
    ∃ (year : Nat) (month day hour minute second : Nat) (fields : DateTime) (offset : Int),
      year ≤ 9999 ∧ DateTime.of? year month day hour minute second = some fields ∧
      -1439 ≤ offset ∧ offset ≤ 1439 ∧ t = fields.minusMinutes offset := by
  simp only [strict?, Option.bind_eq_bind, Option.pure_def] at h
  obtain ⟨year, hyear, h⟩ := Option.bind_eq_some_iff.mp h
  obtain ⟨cs, -, h⟩ := Option.bind_eq_some_iff.mp h
  obtain ⟨month, -, h⟩ := Option.bind_eq_some_iff.mp h
  obtain ⟨cs, -, h⟩ := Option.bind_eq_some_iff.mp h
  obtain ⟨day, -, h⟩ := Option.bind_eq_some_iff.mp h
  have hfour := number?_lt hyear
  split at h
  case h_4 => cases h
  all_goals
    obtain ⟨cs, -, h⟩ := Option.bind_eq_some_iff.mp h
    obtain ⟨hour, -, h⟩ := Option.bind_eq_some_iff.mp h
    obtain ⟨cs, -, h⟩ := Option.bind_eq_some_iff.mp h
    obtain ⟨minute, -, h⟩ := Option.bind_eq_some_iff.mp h
    obtain ⟨cs, -, h⟩ := Option.bind_eq_some_iff.mp h
    obtain ⟨second, -, h⟩ := Option.bind_eq_some_iff.mp h
    obtain ⟨cs, -, h⟩ := Option.bind_eq_some_iff.mp h
    obtain ⟨offset, hoffset, h⟩ := Option.bind_eq_some_iff.mp h
    obtain ⟨fields, hfields, h⟩ := Option.bind_eq_some_iff.mp h
    cases h
    obtain ⟨hlow, hhigh⟩ := offset?_bounds hoffset
    exact ⟨_, _, _, _, _, _, fields, offset, Nat.le_of_lt_succ hfour, hfields, hlow, hhigh, rfl⟩

end Reading

/-- What is read as a date-time has the fields that are written, or those of a year of four digits
moved by less than a day. -/
theorem readDateTime?_cases {s : String} {t : DateTime} (h : readDateTime? s = some t) :
    (∃ year month day hour minute second,
      DateTime.of? year month day hour minute second = some t) ∨
    ∃ (year : Nat) (month day hour minute second : Nat) (fields : DateTime) (offset : Int),
      year ≤ 9999 ∧ DateTime.of? year month day hour minute second = some fields ∧
      -1439 ≤ offset ∧ offset ≤ 1439 ∧ t = fields.minusMinutes offset := by
  simp only [readDateTime?, Option.orElse_eq_orElse, Option.orElse_eq_or,
    Option.or_eq_some_iff] at h
  obtain h | ⟨-, h | ⟨-, h⟩⟩ := h
  · exact .inl (Reading.dateTime?_cases h)
  · exact .inr (Reading.strict?_cases h)
  · obtain ⟨year, month, day, hfields⟩ := Reading.dateOnly?_cases h
    exact .inl ⟨year, month, day, 0, 0, 0, hfields⟩

theorem readDateTime?_valid {s : String} {t : DateTime} (h : readDateTime? s = some t) :
    t.Valid := by
  rcases readDateTime?_cases h with ⟨_, _, _, _, _, _, hfields⟩ |
    ⟨_, _, _, _, _, _, fields, offset, -, hfields, -, -, rfl⟩
  · exact DateTime.of?_valid hfields
  · exact DateTime.minusMinutes_valid (DateTime.of?_valid hfields) offset

end TableSearch.Calendar
