import TableSearch.Calendar.Date

/-!
# Date-times

A date with a time of day in whole seconds. A leap second is second 60 of its minute. The written
form is `YYYY-MM-DD HH:MM:SS`; years outside 0 to 9999 carry a sign.
-/
namespace TableSearch.Calendar

/-- A date and a time of day. -/
structure DateTime where
  date : Date
  hour : Nat
  minute : Nat
  second : Nat
  deriving DecidableEq, Repr, Inhabited

/-- A date-time from its fields, if the calendar and the clock have it. -/
def DateTime.of? (year : Int) (month day hour minute second : Nat) : Option DateTime :=
  if hour ≤ 23 && minute ≤ 59 && second ≤ 60 then
    (Date.of? year month day).map fun date => ⟨date, hour, minute, second⟩
  else none

def Date.midnight (d : Date) : DateTime := ⟨d, 0, 0, 0⟩

/-- The date-time `n` seconds after 1970-01-01 00:00:00, if the calendar reaches that far. -/
def DateTime.ofSeconds? (n : Int) : Option DateTime :=
  let date := Date.ofDays (n / 86400)
  let second := (n % 86400).toNat
  if minYear ≤ date.year && date.year ≤ maxYear then
    some ⟨date, second / 3600, second / 60 % 60, second % 60⟩
  else none

/-- Move a date-time back by whole minutes; the second of the minute stays. -/
def DateTime.minusMinutes (t : DateTime) (minutes : Int) : DateTime :=
  let total := t.date.toDays * 1440 + t.hour * 60 + t.minute - minutes
  let rest := (total % 1440).toNat
  ⟨Date.ofDays (total / 1440), rest / 60, rest % 60, t.second⟩

/-- The decimal digits of `n`, at least `width` of them. -/
def padded (width n : Nat) : List Char :=
  let digits := Nat.toDigits 10 n
  List.replicate (width - digits.length) '0' ++ digits

/-- A year: four digits, or a sign and at least four digits outside 0 to 9999. -/
def writeYear (year : Int) : List Char :=
  if 0 ≤ year && year ≤ 9999 then padded 4 year.toNat
  else (if year < 0 then '-' else '+') :: padded 4 year.natAbs

def Date.write (d : Date) : List Char :=
  writeYear d.year ++ '-' :: padded 2 d.month ++ '-' :: padded 2 d.day

/-- A date-time as `YYYY-MM-DD HH:MM:SS`. -/
def DateTime.write (t : DateTime) : String :=
  String.ofList (t.date.write ++ ' ' :: padded 2 t.hour ++ ':' :: padded 2 t.minute ++
    ':' :: padded 2 t.second)

end TableSearch.Calendar
