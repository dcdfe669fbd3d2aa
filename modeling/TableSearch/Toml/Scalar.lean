import TableSearch.Calendar.Date
import TableSearch.Json.Reader
import TableSearch.Text.Integer

/-!
# Numbers and dates of TOML

Scalars that are written without quotes. Integers fit 64 bits; a date or time of any of the four
kinds becomes a record with one field.
-/
namespace TableSearch.Toml

/-- Digits with single underscores between them, without the underscores. -/
def digits? (isDigit : Char → Bool) : List Char → Option (List Char)
  | [] => none
  | [c] => if isDigit c then some [c] else none
  | c :: '_' :: cs => if isDigit c then (digits? isDigit cs).map (c :: ·) else none
  | c :: cs => if isDigit c then (digits? isDigit cs).map (c :: ·) else none

def decimalDigits? (cs : List Char) : Option (List Char) := do
  let digits ← digits? Char.isDigit cs
  if digits.head? == some '0' && digits.length > 1 then none else some digits

/-- The sign of a number: whether it is negative, and the rest. -/
def sign : List Char → Bool × List Char
  | '-' :: cs => (true, cs)
  | '+' :: cs => (false, cs)
  | cs => (false, cs)

def number? (base : Nat) (cs : List Char) : Option Nat := do
  let digits ← digits? (fun c => (Json.Reader.hexValue? c).any (· < base)) cs
  return digits.foldl (fun n c => n * base + (Json.Reader.hexValue? c).getD 0) 0

/-- An integer: decimal with an optional sign, or with a base mark. -/
def integer? (cs : List Char) : Option Int := do
  let n ← match cs with
    | '0' :: 'x' :: cs => (number? 16 cs).map Int.ofNat
    | '0' :: 'o' :: cs => (number? 8 cs).map Int.ofNat
    | '0' :: 'b' :: cs => (number? 2 cs).map Int.ofNat
    | cs =>
      let (negative, cs) := sign cs
      let digits ← decimalDigits? cs
      let n : Int := Nat.ofDigitChars 10 digits 0
      some (if negative then -n else n)
  if Text.fitsInt64 n then some n else none

/-- The exponent of a number, after its mark. -/
def exponent? (cs : List Char) : Option Int := do
  let (negative, cs) := sign cs
  let n : Int := Nat.ofDigitChars 10 (← digits? Char.isDigit cs) 0
  return if negative then -n else n

/-- A number with a fraction, an exponent or both, or one without finite value. -/
def float? (cs : List Char) : Option Json := do
  let (negative, cs) := sign cs
  if cs == "inf".toList || cs == "nan".toList then return .decimal negative 0 0
  let mantissa := cs.takeWhile fun c => c != 'e' && c != 'E'
  let rest := cs.drop mantissa.length
  let whole ← decimalDigits? (mantissa.takeWhile (· != '.'))
  let fraction ← match mantissa.dropWhile (· != '.') with
    | '.' :: fraction => digits? Char.isDigit fraction
    | _ => if rest.isEmpty then none else some []
  let exponent ← match rest with
    | [] => some 0
    | _ :: rest => exponent? rest
  let shift := exponent - fraction.length
  let n := Nat.ofDigitChars 10 (whole ++ fraction) 0
  if negative || Json.Reader.isFinite n shift then some (.decimal negative n shift) else none

def twoDigits? : List Char → Option Nat
  | [a, b] => Text.readNat? [a, b]
  | _ => none

def isDate (cs : List Char) : Bool :=
  match cs with
  | [a, b, c, d, '-', e, f, '-', g, h] =>
    match Text.readNat? [a, b, c, d], twoDigits? [e, f], twoDigits? [g, h] with
    | some year, some month, some day => (Calendar.Date.of? year month day).isSome
    | _, _, _ => false
  | _ => false

def isField (limit : Nat) (cs : List Char) : Bool := (twoDigits? cs).any (· ≤ limit)

/-- A time `HH:MM:SS` with an optional fraction. -/
def isTime (cs : List Char) : Bool :=
  match cs with
  | a :: b :: ':' :: c :: d :: ':' :: e :: f :: rest =>
    isField 23 [a, b] && isField 59 [c, d] && isField 60 [e, f] &&
      match rest with
      | [] => true
      | '.' :: fraction => (Text.readNat? fraction).isSome
      | _ => false
  | _ => false

def isOffset (cs : List Char) : Bool :=
  match cs with
  | ['Z'] | ['z'] => true
  | s :: a :: b :: ':' :: rest => (s == '+' || s == '-') && isField 23 [a, b] && isField 59 rest
  | _ => false

def isZonedTime (cs : List Char) : Bool :=
  let time := cs.takeWhile fun c => c.isDigit || c == ':' || c == '.'
  let offset := cs.drop time.length
  isTime time && (offset.isEmpty || isOffset offset)

/-- A date, a time, or both. -/
def isDateTime (cs : List Char) : Bool :=
  isTime cs || isDate cs ||
    (isDate (cs.take 10) &&
      match cs.drop 10 with
      | 'T' :: time | 't' :: time | ' ' :: time => isZonedTime time
      | _ => false)

def dateTimeField : String := "$__toml_private_datetime"

def scalar? (cs : List Char) : Option Json :=
  if cs == "true".toList then some (.bool true)
  else if cs == "false".toList then some (.bool false)
  else
    match integer? cs with
    | some n => some (.integer n)
    | none =>
      if isDateTime cs then some (.record [(dateTimeField, .text (String.ofList cs))])
      else float? cs

def isScalarChar (c : Char) : Bool :=
  c.isAlphanum || c == '_' || c == '+' || c == '-' || c == '.' || c == ':'

/-- The characters of a scalar without quotes at the beginning of a text. A space may stand
between a date and a time. -/
def scalarChars (cs : List Char) : List Char :=
  let token := cs.takeWhile isScalarChar
  match cs.drop token.length with
  | ' ' :: c :: rest =>
    if isDate token && c.isDigit then token ++ ' ' :: (c :: rest).takeWhile isScalarChar else token
  | _ => token

end TableSearch.Toml
