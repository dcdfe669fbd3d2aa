import Mathlib.Data.List.Basic
import TableSearch.Proofs.Calendar.Bounds
import TableSearch.Proofs.Calendar.WrittenOrder
import TableSearch.Proofs.DecimalForm

/-!
# Reading written date-times

The first of the three shapes that are tried takes every written date-time, and a field in it is
read back whatever follows. Main statements: a date-time of the calendar is read from its written
form (`readDateTime?_write`), and a moment with a fraction of a second is read back without it
(`readMoment?_write`).
-/
namespace TableSearch.Calendar

namespace Reading

section Fields

variable {digits rest : List Char} {least most n : Nat}

theorem number?_full (hdigits : digits.all Char.isDigit) (hleast : least ≤ digits.length)
    (hmost : digits.length = most) (rest : List Char) :
    number? least most (digits ++ rest) = some (Nat.ofDigitChars 10 digits 0, rest) := by
  have htake : ((digits ++ rest).take most).takeWhile Char.isDigit = digits := by
    rw [← hmost, List.take_left, List.takeWhile_eq_self_iff]
    exact List.all_eq_true.mp hdigits
  have hwide : ¬digits.length < least := by omega
  simp [number?, htake, hwide]

theorem number?_unbounded (hdigits : digits.all Char.isDigit) (hleast : least ≤ digits.length)
    (hrest : ∀ c ∈ rest.head?, c.isDigit = false) :
    number? least (digits ++ rest).length (digits ++ rest) =
      some (Nat.ofDigitChars 10 digits 0, rest) := by
  have htake : (digits ++ rest).takeWhile Char.isDigit = digits := by
    rw [List.takeWhile_append_of_pos (List.all_eq_true.mp hdigits)]
    cases rest with
    | nil => simp
    | cons c rest =>
      have hc := hrest c rfl
      simp [hc]
  have hwide : ¬digits.length < least := by omega
  rw [number?, List.take_length, htake]
  simp [hwide]

theorem skip_of_isDigit {c : Char} (h : c.isDigit) (cs : List Char) : skip (c :: cs) = c :: cs := by
  simp [skip, Text.isBlank_of_isDigit h]

theorem field?_padded (h : n ≤ 99) (rest : List Char) :
    field? (padded 2 n ++ rest) = some (n, rest) := by
  have hlength := length_padded (length_toDigits_le_two h)
  have hdigits := all_isDigit_padded 2 n
  have hskip : skip (padded 2 n ++ rest) = padded 2 n ++ rest := by
    cases hp : padded 2 n with
    | nil => simp [hp] at hlength
    | cons c cs =>
      rw [hp, List.all_cons, Bool.and_eq_true] at hdigits
      exact skip_of_isDigit hdigits.1 (cs ++ rest)
  rw [field?, hskip, number?_full hdigits (by omega) hlength, ofDigitChars_padded]

theorem field?_blank (cs : List Char) : field? (' ' :: cs) = field? cs := rfl

theorem literal?_cons (c : Char) (cs : List Char) : literal? c (c :: cs) = some cs := by
  simp [literal?]

end Fields

section Years

variable {cs rest : List Char}

theorem year?_minus (cs : List Char) :
    year? ('-' :: cs) = (number? 1 cs.length cs).map fun r => (-(r.1 : Int), r.2) := rfl

theorem year?_plus (cs : List Char) :
    year? ('+' :: cs) = (number? 1 cs.length cs).map fun r => ((r.1 : Int), r.2) := rfl

theorem year?_digit {c : Char} (h : c.isDigit) (cs : List Char) :
    year? (c :: cs) = (number? 1 4 (c :: cs)).map fun r => ((r.1 : Int), r.2) := by
  rw [year?, skip_of_isDigit h]
  split
  · rename_i he
    cases he
    exact absurd h (by decide)
  · rename_i he
    cases he
    exact absurd h (by decide)
  · rfl

theorem year?_writeYear (year : Int) (hrest : ∀ c ∈ rest.head?, c.isDigit = false) :
    year? (writeYear year ++ rest) = some (year, rest) := by
  have hwidth (n : Nat) : 1 ≤ (padded 4 n).length := by
    obtain ⟨c, digits, h, -⟩ := exists_padded n
    rw [h, List.length_cons]
    exact Nat.le_add_left 1 _
  have hsigned (n : Nat) := number?_unbounded (all_isDigit_padded 4 n) (hwidth n) hrest
  rcases writeYear_cases year with ⟨n, hle, rfl, hwritten⟩ | ⟨n, rfl, hwritten⟩ |
    ⟨n, rfl, hwritten⟩
  · obtain ⟨c, digits, h, hdigit, -⟩ := exists_padded n
    have hnumber := number?_full (all_isDigit_padded 4 n) (hwidth n)
      (length_padded (length_toDigits_le_four hle)) rest
    rw [ofDigitChars_padded] at hnumber
    rw [hwritten]
    rw [h, List.cons_append] at hnumber ⊢
    rw [year?_digit hdigit, hnumber]
    rfl
  · rw [hwritten, List.cons_append, year?_minus, hsigned, ofDigitChars_padded]
    rfl
  · rw [hwritten, List.cons_append, year?_plus, hsigned, ofDigitChars_padded]
    rfl

end Years

theorem date?_write {d : Date} (h : d.InCalendar) (rest : List Char) :
    date? (d.write ++ rest) = some (d, rest) := by
  have hmonth : d.month ≤ 99 := h.valid.month_le.trans (by decide)
  have hday : d.day ≤ 99 := h.valid.day_le_thirty_one.trans (by decide)
  simp only [Date.write, List.append_assoc, List.cons_append]
  rw [date?, year?_writeYear d.year (by simp)]
  simp [literal?_cons, field?_padded hmonth, field?_padded hday, Date.of?_of_inCalendar h]

theorem dateTime?_write {t : DateTime} (h : t.InCalendar) :
    dateTime? t.write.toList = some t := by
  have hhour : t.hour ≤ 99 := h.valid.hour_le.trans (by decide)
  have hminute : t.minute ≤ 99 := h.valid.minute_le.trans (by decide)
  have hsecond : t.second ≤ 99 := h.valid.second_le.trans (by decide)
  simp only [DateTime.write, String.toList_ofList, List.append_assoc, List.cons_append]
  have hlast := field?_padded hsecond []
  rw [List.append_nil] at hlast
  rw [dateTime?, date?_write h.date]
  simp [field?_blank, field?_padded hhour, field?_padded hminute, hlast, literal?_cons,
    DateTime.of?_of_inCalendar h]

end Reading

section Ends

theorem head_writeYear (year : Int) : ∀ c ∈ (writeYear year).head?, Text.isBlank c = false := by
  intro c hc
  rcases writeYear_cases year with ⟨n, -, -, hwritten⟩ | ⟨n, -, hwritten⟩ | ⟨n, -, hwritten⟩
  · obtain ⟨d, digits, h, hdigit, -⟩ := exists_padded n
    rw [hwritten, h] at hc
    cases hc
    exact Text.isBlank_of_isDigit hdigit
  · rw [hwritten] at hc
    cases hc
    rfl
  · rw [hwritten] at hc
    cases hc
    rfl

theorem trimList_write (t : DateTime) : Text.trimList t.write.toList = t.write.toList := by
  obtain ⟨c, digits, hyear, -⟩ := exists_writeYear t.date.year
  have hhead := head_writeYear t.date.year
  apply Text.trimList_of_ends
  · simp only [DateTime.write, Date.write, String.toList_ofList, hyear, List.cons_append]
    rw [hyear] at hhead
    exact hhead
  · have hne : padded 2 t.second ≠ [] := by simp [padded, Nat.toDigits_ne_nil]
    rw [DateTime.write, String.toList_ofList, List.append_cons]
    intro c hc
    rw [Option.mem_def, List.getLast?_append_of_ne_nil _ hne] at hc
    exact Text.isBlank_of_isDigit
      (List.all_eq_true.mp (all_isDigit_padded 2 t.second) c (List.mem_of_getLast? hc))

end Ends

/-- A date-time of the calendar is read from its written form. -/
theorem readDateTime?_write {t : DateTime} (h : t.InCalendar) : readDateTime? t.write = some t := by
  rw [readDateTime?, trimList_write, Reading.dateTime?_write h]
  rfl

section Fractions

/-- The digits after the point of a text; nine of them count. -/
def fractionDigits (cs : List Char) : List Char :=
  (((cs.dropWhile (· != '.')).drop 1).takeWhile Char.isDigit).take 9

theorem ofDigitChars_fractionDigits_lt (cs : List Char) :
    Nat.ofDigitChars 10 (fractionDigits cs) 0 * 10 ^ (9 - (fractionDigits cs).length) <
      1000000000 := by
  have hdigits : (fractionDigits cs).all Char.isDigit := by
    rw [List.all_eq_true]
    exact fun c hc => List.all_eq_true.mp List.all_takeWhile c (List.mem_of_mem_take hc)
  have hlength : (fractionDigits cs).length ≤ 9 := List.length_take_le _ _
  have hlt := Text.ofDigitChars_lt hdigits 0
  calc
    _ < 10 ^ (fractionDigits cs).length * 10 ^ (9 - (fractionDigits cs).length) :=
      Nat.mul_lt_mul_of_pos_right (by simpa using hlt) (Nat.pow_pos (by decide))
    _ = 10 ^ 9 := by rw [← Nat.pow_add, Nat.add_sub_cancel' hlength]
    _ = 1000000000 := by decide

/-- The fraction of a second in a text, in nanoseconds. Only the strict shape has a point. -/
def nanosecond (cs : List Char) : Fin 1000000000 :=
  ⟨Nat.ofDigitChars 10 (fractionDigits cs) 0 * 10 ^ (9 - (fractionDigits cs).length),
    ofDigitChars_fractionDigits_lt cs⟩

theorem nanosecond_of_notMem {cs : List Char} (h : '.' ∉ cs) : nanosecond cs = 0 := by
  have hdrop : cs.dropWhile (· != '.') = [] := by
    rw [List.dropWhile_eq_nil_iff]
    intro c hc
    rw [bne_iff_ne]
    rintro rfl
    exact h hc
  have hdigits : fractionDigits cs = [] := by simp [fractionDigits, hdrop]
  simp [nanosecond, hdigits]

theorem point_notMem_padded (width n : Nat) : '.' ∉ padded width n := by
  intro h
  exact absurd (List.all_eq_true.mp (all_isDigit_padded width n) '.' h) (by decide)

theorem nanosecond_write (t : DateTime) : nanosecond t.write.toList = 0 := by
  apply nanosecond_of_notMem
  have hyear : '.' ∉ writeYear t.date.year := by
    rcases writeYear_cases t.date.year with ⟨n, -, -, h⟩ | ⟨n, -, h⟩ | ⟨n, -, h⟩
    · rw [h]
      exact point_notMem_padded 4 n
    · simp [h, point_notMem_padded]
    · simp [h, point_notMem_padded]
  simp [DateTime.write, Date.write, hyear, point_notMem_padded]

/-- A date-time and the fraction of a second after it, in nanoseconds. -/
structure Moment where
  dateTime : DateTime
  nanosecond : Fin 1000000000
  deriving DecidableEq

def DateTime.moment (t : DateTime) : Moment := ⟨t, 0⟩

def Moment.write (m : Moment) : String := m.dateTime.write

def Moment.whole (m : Moment) : Moment := m.dateTime.moment

def readMoment? (s : String) : Option Moment :=
  (readDateTime? s).map fun t => ⟨t, nanosecond s.toList⟩

theorem readMoment?_write {t : DateTime} (h : t.InCalendar) :
    readMoment? t.write = some t.moment := by
  rw [readMoment?, readDateTime?_write h, nanosecond_write]
  rfl

end Fractions

end TableSearch.Calendar
