import TableSearch.Json.Basic

/-!
# Reading JSON text

The grammar of RFC 8259 with three limits: arrays and objects nest at most 127 deep, a number is
below the range of binary64, and an escaped surrogate belongs to a pair. The readers take the
rest of the text and give back what they leave of it.
-/
namespace TableSearch.Json.Reader

def isBlank (c : Char) : Bool := c == ' ' || c == '\t' || c == '\n' || c == '\r'

def skip (cs : List Char) : List Char := cs.dropWhile isBlank

def hexValue? (c : Char) : Option Nat :=
  if '0' ≤ c && c ≤ '9' then some (c.toNat - 48)
  else if 'a' ≤ c && c ≤ 'f' then some (c.toNat - 87)
  else if 'A' ≤ c && c ≤ 'F' then some (c.toNat - 55)
  else none

def hexNumber? (cs : List Char) : Option Nat :=
  cs.foldl (fun acc c => do return (← acc) * 16 + (← hexValue? c)) (some 0)

def shortEscape? : Char → Option Char
  | '"' => some '"'
  | '\\' => some '\\'
  | '/' => some '/'
  | 'b' => some '\x08'
  | 'f' => some '\x0c'
  | 'n' => some '\n'
  | 'r' => some '\r'
  | 't' => some '\t'
  | _ => none

/-- The rest of a string after its opening quote; `acc` holds what was read, last first. -/
def string? : List Char → List Char → Option (String × List Char)
  | [], _ => none
  | '"' :: cs, acc => some (String.ofList acc.reverse, cs)
  | '\\' :: 'u' :: a :: b :: c :: d :: cs, acc => do
    let high ← hexNumber? [a, b, c, d]
    if 0xD800 ≤ high && high ≤ 0xDBFF then
      match cs with
      | '\\' :: 'u' :: e :: f :: g :: h :: cs =>
        let low ← hexNumber? [e, f, g, h]
        if 0xDC00 ≤ low && low ≤ 0xDFFF then
          string? cs (Char.ofNat (0x10000 + (high - 0xD800) * 0x400 + (low - 0xDC00)) :: acc)
        else none
      | _ => none
    else if 0xDC00 ≤ high && high ≤ 0xDFFF then none
    else string? cs (Char.ofNat high :: acc)
  | '\\' :: e :: cs, acc => do string? cs ((← shortEscape? e) :: acc)
  | c :: cs, acc => if c.toNat < 0x20 then none else string? cs (c :: acc)

/-- Whether `digits * 10 ^ exponent` rounds to a finite binary64 number. -/
def isFinite (digits : Nat) (exponent : Int) : Bool :=
  let size := (Nat.toDigits 10 digits).length + exponent
  if digits = 0 then true
  else if size < 300 then true
  else if size > 400 then false
  else if exponent ≥ 0 then digits * Nat.pow 10 exponent.toNat < Nat.pow 2 1024 - Nat.pow 2 970
  else digits < (Nat.pow 2 1024 - Nat.pow 2 970) * Nat.pow 10 (-exponent).toNat

/-- Whether a minus sign comes first, and what follows a sign of either kind. -/
def sign : List Char → Bool × List Char
  | '-' :: cs => (true, cs)
  | '+' :: cs => (false, cs)
  | cs => (false, cs)

/-- The digits of an exponent after `e`: an optional sign and at least one digit. -/
def exponent? (cs : List Char) : Option (Int × List Char) :=
  let (negative, cs) := sign cs
  let digits := cs.takeWhile Char.isDigit
  if digits.isEmpty then none
  else
    let n : Int := Nat.ofDigitChars 10 digits 0
    some (if negative then -n else n, cs.dropWhile Char.isDigit)

/-- The digits after a decimal point, if one comes next. -/
def fraction? : List Char → Option (Option (List Char) × List Char)
  | '.' :: cs =>
    let digits := cs.takeWhile Char.isDigit
    if digits.isEmpty then none else some (some digits, cs.dropWhile Char.isDigit)
  | cs => some (none, cs)

/-- A power of ten, if one comes next. -/
def power? : List Char → Option (Option Int × List Char)
  | 'e' :: cs | 'E' :: cs => (exponent? cs).map fun (n, cs) => (some n, cs)
  | cs => some (none, cs)

/-- A number without its sign. A zero with a minus sign is not an integer. -/
def number? (negative : Bool) (cs : List Char) : Option (Json × List Char) := do
  let whole := cs.takeWhile Char.isDigit
  if whole.isEmpty || (whole.head? == some '0' && whole.length > 1) then none
  else
    let (fraction, rest) ← fraction? (cs.dropWhile Char.isDigit)
    let (exponent, rest) ← power? rest
    let digits := Nat.ofDigitChars 10 (whole ++ fraction.getD []) 0
    let shift := exponent.getD 0 - (fraction.getD []).length
    if !isFinite digits shift then none
    else if fraction.isNone && exponent.isNone && !(negative && digits == 0) then
      some (integer (if negative then -(digits : Int) else digits), rest)
    else some (decimal negative digits shift, rest)

def maxDepth : Nat := 128

mutual

/-- A value with blanks before it. `fuel` bounds the steps, `depth` the levels still open. -/
def value? (fuel depth : Nat) (cs : List Char) : Option (Json × List Char) :=
  match fuel with
  | 0 => none
  | fuel + 1 =>
    match skip cs with
    | 'n' :: 'u' :: 'l' :: 'l' :: cs => some (null, cs)
    | 't' :: 'r' :: 'u' :: 'e' :: cs => some (bool true, cs)
    | 'f' :: 'a' :: 'l' :: 's' :: 'e' :: cs => some (bool false, cs)
    | '"' :: cs => (string? cs []).map fun (s, cs) => (text s, cs)
    | '-' :: cs => number? true cs
    | '[' :: cs =>
      if depth ≤ 1 then none
      else
        match skip cs with
        | ']' :: cs => some (list [], cs)
        | cs => items? fuel (depth - 1) cs []
    | '\x7b' :: cs =>
      if depth ≤ 1 then none
      else
        match skip cs with
        | '\x7d' :: cs => some (record [], cs)
        | cs => fields? fuel (depth - 1) cs []
    | cs => number? false cs

/-- The items of an array, at least one; `acc` holds those read, last first. -/
def items? (fuel depth : Nat) (cs : List Char) (acc : List Json) :
    Option (Json × List Char) :=
  match fuel with
  | 0 => none
  | fuel + 1 =>
    match value? fuel depth cs with
    | none => none
    | some (item, cs) =>
      match skip cs with
      | ',' :: cs => items? fuel depth cs (item :: acc)
      | ']' :: cs => some (list (item :: acc).reverse, cs)
      | _ => none

/-- The fields of an object, at least one; `acc` holds those read, last first. -/
def fields? (fuel depth : Nat) (cs : List Char) (acc : List (String × Json)) :
    Option (Json × List Char) :=
  match fuel with
  | 0 => none
  | fuel + 1 =>
    match skip cs with
    | '"' :: cs =>
      match string? cs [] with
      | none => none
      | some (name, cs) =>
        match skip cs with
        | ':' :: cs =>
          match value? fuel depth cs with
          | none => none
          | some (item, cs) =>
            match skip cs with
            | ',' :: cs => fields? fuel depth cs ((name, item) :: acc)
            | '\x7d' :: cs => some (record ((name, item) :: acc).reverse, cs)
            | _ => none
        | _ => none
    | _ => none

end

end Reader

/-- The tree of a JSON text: one value between blanks. -/
def read? (s : String) : Option Json :=
  let cs := s.toList
  match Reader.value? (2 * cs.length + 2) Reader.maxDepth cs with
  | some (v, rest) => if (Reader.skip rest).isEmpty then some v else none
  | none => none

end TableSearch.Json
