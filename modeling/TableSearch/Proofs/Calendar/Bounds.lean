import TableSearch.Proofs.Calendar.Instant

/-!
# The bounds of the calendar

The calendar begins with the first day of `minYear` and ends with the last day of `maxYear`. The
seconds counted from 1970-01-01 reach exactly as far (`DateTime.ofSeconds?_isSome_iff`), and what is
read as a date-time lies within these bounds (`readDateTime?_inCalendar`), even where an offset from
UTC leads out of the years 0 to 9999.
-/
namespace TableSearch.Calendar

namespace Date

def newYear (year : Int) : Date := ⟨year, 1, 1⟩

theorem newYear_valid (year : Int) : (newYear year).Valid :=
  ⟨le_rfl, Nat.le_of_ble_eq_true rfl, le_rfl, by simp [newYear, daysInMonth]⟩

variable {d : Date}

theorem newYear_le_iff (h : d.Valid) (year : Int) :
    (newYear year).toDays ≤ d.toDays ↔ year ≤ d.year := by
  have hone := h.one_le_month
  have htwelve := h.month_le
  have hday := h.one_le_day
  constructor
  · intro hle
    by_contra hlt
    have hmonths : monthNumber d.year d.month < monthNumber (newYear year).year 1 := by
      change 12 * d.year + d.month - 3 < 12 * year + (1 : Nat) - 3
      omega
    exact absurd (toDays_lt_of_monthNumber_lt h (newYear_valid year) hmonths) (by omega)
  · intro hle
    have hmonths : monthNumber year 1 ≤ monthNumber d.year d.month := by
      unfold monthNumber
      omega
    have hbefore := daysBefore_mono hmonths
    rw [toDays_eq h, toDays_eq (newYear_valid year)]
    change daysBefore (monthNumber year 1) + (1 : Nat) - 719469 ≤ _
    omega

/-- A day between the first and the last day of the calendar. -/
structure InCalendar (d : Date) : Prop where
  valid : d.Valid
  minYear_le : minYear ≤ d.year
  year_le : d.year ≤ maxYear

def firstDay : Int := -96465292

def lastDay : Int := 95026236

theorem toDays_newYear_minYear : (newYear minYear).toDays = firstDay := by decide

theorem toDays_newYear_maxYear : (newYear (maxYear + 1)).toDays = lastDay + 1 := by decide

theorem inCalendar_iff (h : d.Valid) :
    d.InCalendar ↔ firstDay ≤ d.toDays ∧ d.toDays ≤ lastDay := by
  have hfirst := newYear_le_iff h minYear
  have hlast := newYear_le_iff h (maxYear + 1)
  rw [toDays_newYear_minYear] at hfirst
  rw [toDays_newYear_maxYear] at hlast
  constructor
  · rintro ⟨-, hmin, hmax⟩
    omega
  · rintro ⟨hmin, hmax⟩
    exact ⟨h, by omega, by omega⟩

theorem of?_inCalendar {year : Int} {month day : Nat} (h : of? year month day = some d) :
    d.InCalendar := by
  have hvalid := of?_valid h
  unfold of? at h
  obtain ⟨hfits, heq⟩ := Option.ite_none_right_eq_some.mp h
  cases heq
  simp only [Bool.and_eq_true, decide_eq_true_eq] at hfits
  exact ⟨hvalid, hfits.1.1.1.1.1, hfits.1.1.1.1.2⟩

theorem of?_of_inCalendar (h : d.InCalendar) : of? d.year d.month d.day = some d := by
  simp [of?, h.minYear_le, h.year_le, h.valid.one_le_month, h.valid.month_le,
    h.valid.one_le_day, h.valid.day_le]

end Date

namespace DateTime

variable {t : DateTime} {n : Int}

/-- A date-time of the calendar. -/
structure InCalendar (t : DateTime) : Prop where
  valid : t.Valid
  date : t.date.InCalendar

/-- The first second of the calendar, counted from 1970-01-01. -/
def firstSecond : Int := -8334601228800

def lastSecond : Int := 8210266876799

/-- The seconds of the calendar are those from its first to its last one. -/
theorem ofSeconds?_isSome_iff (n : Int) :
    (ofSeconds? n).isSome ↔ firstSecond ≤ n ∧ n ≤ lastSecond := by
  have hdate := Date.inCalendar_iff (Date.ofDays_valid (n / 86400))
  rw [Date.toDays_ofDays] at hdate
  have hyears : (ofSeconds? n).isSome ↔ (Date.ofDays (n / 86400)).InCalendar := by
    unfold ofSeconds?
    dsimp only
    split
    · rename_i h
      simp only [Bool.and_eq_true, decide_eq_true_eq] at h
      exact iff_of_true rfl ⟨Date.ofDays_valid _, h.1, h.2⟩
    · rename_i h
      simp only [Bool.and_eq_true, decide_eq_true_eq] at h
      exact iff_of_false Bool.false_ne_true fun hd => h ⟨hd.minYear_le, hd.year_le⟩
  rw [hyears, hdate]
  unfold Date.firstDay Date.lastDay firstSecond lastSecond
  omega

theorem ofSeconds?_inCalendar (h : ofSeconds? n = some t) : t.InCalendar := by
  have hvalid := ofSeconds?_valid h
  unfold ofSeconds? at h
  obtain ⟨hyear, heq⟩ := Option.ite_none_right_eq_some.mp h
  cases heq
  simp only [Bool.and_eq_true, decide_eq_true_eq] at hyear
  exact ⟨hvalid, hvalid.date, hyear.1, hyear.2⟩

theorem of?_inCalendar {year : Int} {month day hour minute second : Nat}
    (h : of? year month day hour minute second = some t) : t.InCalendar := by
  refine ⟨of?_valid h, ?_⟩
  unfold of? at h
  obtain ⟨-, heq⟩ := Option.ite_none_right_eq_some.mp h
  obtain ⟨date, hdate, rfl⟩ := Option.map_eq_some_iff.mp heq
  exact Date.of?_inCalendar hdate

theorem eq_of_of? {year : Int} {month day hour minute second : Nat}
    (h : of? year month day hour minute second = some t) :
    t = ⟨⟨year, month, day⟩, hour, minute, second⟩ := by
  unfold of? at h
  obtain ⟨-, heq⟩ := Option.ite_none_right_eq_some.mp h
  obtain ⟨date, hdate, rfl⟩ := Option.map_eq_some_iff.mp heq
  unfold Date.of? at hdate
  obtain ⟨-, hfields⟩ := Option.ite_none_right_eq_some.mp hdate
  rw [← Option.some.inj hfields]

theorem of?_of_inCalendar (h : t.InCalendar) :
    of? t.date.year t.date.month t.date.day t.hour t.minute t.second = some t := by
  simp [of?, h.valid.hour_le, h.valid.minute_le, h.valid.second_le, Date.of?_of_inCalendar h.date]

/-- An offset of less than a day does not lead from a year of four digits out of the calendar. -/
theorem minusMinutes_inCalendar {fields : DateTime} (hvalid : fields.Valid)
    (hpos : 0 ≤ fields.date.year) (hle : fields.date.year ≤ 9999) {offset : Int}
    (hlow : -1439 ≤ offset) (hhigh : offset ≤ 1439) : (fields.minusMinutes offset).InCalendar := by
  have hhour := hvalid.hour_le
  have hminute := hvalid.minute_le
  have hsince := Date.newYear_le_iff hvalid.date 0
  have huntil := Date.newYear_le_iff hvalid.date 10000
  have hfirst : (Date.newYear 0).toDays = -719528 := by decide
  have hlast : (Date.newYear 10000).toDays = 2932897 := by decide
  refine ⟨minusMinutes_valid hvalid offset, ?_⟩
  refine (Date.inCalendar_iff (Date.ofDays_valid _)).mpr ?_
  rw [Date.toDays_ofDays]
  unfold Date.firstDay Date.lastDay
  omega

end DateTime

/-- What is read as a date-time is one of the calendar. -/
theorem readDateTime?_inCalendar {s : String} {t : DateTime} (h : readDateTime? s = some t) :
    t.InCalendar := by
  rcases readDateTime?_cases h with ⟨_, _, _, _, _, _, hfields⟩ |
    ⟨year, _, _, _, _, _, fields, offset, hyear, hfields, hlow, hhigh, rfl⟩
  · exact DateTime.of?_inCalendar hfields
  · have hyears : fields.date.year = year := by rw [DateTime.eq_of_of? hfields]
    exact DateTime.minusMinutes_inCalendar (DateTime.of?_valid hfields) (by omega) (by omega)
      hlow hhigh

end TableSearch.Calendar
