import TableSearch.Calendar.DateTime
import TableSearch.Text.Blank

/-!
# Reading date-times

Three written shapes are tried in turn: a date and a time of day, both with lenient field widths;
the strict shape of RFC 3339 with an offset from UTC; a lenient date alone, which means midnight.
Fractions of a second are dropped.
-/
namespace TableSearch.Calendar.Reading

/-- Up to `most` leading digits, at least `least` of them, as a number. -/
def number? (least most : Nat) (cs : List Char) : Option (Nat × List Char) :=
  let digits := (cs.take most).takeWhile Char.isDigit
  if digits.length < least then none
  else some (Nat.ofDigitChars 10 digits 0, cs.drop digits.length)

def literal? (c : Char) : List Char → Option (List Char)
  | d :: cs => if c == d then some cs else none
  | [] => none

def skip (cs : List Char) : List Char := cs.dropWhile Text.isBlank

/-- One or two digits, blanks allowed before them. -/
def field? (cs : List Char) : Option (Nat × List Char) := number? 1 2 (skip cs)

/-- A year: up to four digits, or a sign and any number of digits. -/
def year? (cs : List Char) : Option (Int × List Char) :=
  match skip cs with
  | '-' :: cs => (number? 1 cs.length cs).map fun (n, cs) => (-(n : Int), cs)
  | '+' :: cs => (number? 1 cs.length cs).map fun (n, cs) => ((n : Int), cs)
  | cs => (number? 1 4 cs).map fun (n, cs) => ((n : Int), cs)

/-- A lenient date. -/
def date? (cs : List Char) : Option (Date × List Char) := do
  let (year, cs) ← year? cs
  let (month, cs) ← field? (← literal? '-' cs)
  let (day, cs) ← field? (← literal? '-' cs)
  return (← Date.of? year month day, cs)

/-- A lenient date and time of day, nothing after it. -/
def dateTime? (cs : List Char) : Option DateTime := do
  let (date, cs) ← date? cs
  let (hour, cs) ← field? cs
  let (minute, cs) ← field? (← literal? ':' cs)
  let (second, cs) ← field? (← literal? ':' cs)
  if cs.isEmpty then DateTime.of? date.year date.month date.day hour minute second else none

/-- An offset from UTC in minutes, nothing after it. -/
def offset? : List Char → Option Int
  | ['z'] | ['Z'] => some 0
  | sign :: cs => do
    let negative ← if sign == '+' then some false
      else if sign == '-' || sign == '\u2212' then some true
      else none
    let (hours, cs) ← number? 2 2 cs
    let (minutes, cs) ← number? 2 2 (← literal? ':' cs)
    if cs.isEmpty && hours ≤ 23 && minutes ≤ 59 then
      let total : Int := hours * 60 + minutes
      some (if negative then -total else total)
    else none
  | [] => none

/-- A decimal fraction, if a point comes next; its digits are dropped. -/
def skipFraction? : List Char → Option (List Char)
  | '.' :: cs =>
    if (cs.head?.map Char.isDigit).getD false then some (cs.dropWhile Char.isDigit) else none
  | cs => some cs

/-- The strict shape of RFC 3339, moved to UTC. -/
def strict? (cs : List Char) : Option DateTime := do
  let (year, cs) ← number? 4 4 cs
  let (month, cs) ← number? 2 2 (← literal? '-' cs)
  let (day, cs) ← number? 2 2 (← literal? '-' cs)
  let cs ← match cs with
    | 't' :: cs | 'T' :: cs | ' ' :: cs => some cs
    | _ => none
  let (hour, cs) ← number? 2 2 cs
  let (minute, cs) ← number? 2 2 (← literal? ':' cs)
  let (second, cs) ← number? 2 2 (← literal? ':' cs)
  let offset ← offset? (← skipFraction? cs)
  let t ← DateTime.of? year month day hour minute second
  return t.minusMinutes offset

/-- A lenient date alone. -/
def dateOnly? (cs : List Char) : Option DateTime := do
  let (date, cs) ← date? cs
  if cs.isEmpty then some date.midnight else none

end Reading

/-- The date-time that a text between blanks denotes. -/
def readDateTime? (s : String) : Option DateTime :=
  let cs := Text.trimList s.toList
  Reading.dateTime? cs <|> Reading.strict? cs <|> Reading.dateOnly? cs

end TableSearch.Calendar
