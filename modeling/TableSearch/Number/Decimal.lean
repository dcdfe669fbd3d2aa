import TableSearch.Number.Double

/-!
# Decimal text of floating point numbers

A finite number is written with the fewest digits that read back as the same number, of those the
nearest, and always in positional notation. A second text has a given number of significant
digits, trailing zeros dropped, and an exponent when the number is very large or very small.
-/
namespace TableSearch.Double

/-- The position of the first digit of `n / d`: the `k` with `10 ^ k ≤ n / d < 10 ^ (k + 1)`. -/
def magnitude (n d : Nat) : Int :=
  let k : Int := (Nat.toDigits 10 n).length - (Nat.toDigits 10 d).length
  let (p, q) := scaled 10 n d (-k)
  if p ≥ q then k else k - 1

/-- The number `digits * 10 ^ exponent`. -/
structure Decimal where
  digits : Nat
  exponent : Int
  deriving DecidableEq, Repr, Inhabited

/-- The bounds of what rounds to a mantissa, in quarters of the unit of its last bit. The number
below is half as far away at a power of two. -/
def bounds (mantissa : Nat) (exponent : Int) : Nat × Nat :=
  let low := if mantissa = 0x10000000000000 && exponent > minExponent then 1 else 2
  (4 * mantissa - low, 4 * mantissa + 2)

/-- Whether a decimal rounds to the number of a mantissa and exponent. -/
def roundsTo (mantissa : Nat) (exponent : Int) (x : Decimal) : Bool :=
  let (low, high) := bounds mantissa exponent
  let (n, d) := scaled 10 x.digits 1 x.exponent
  let (n, d) := scaled 2 n d (2 - exponent)
  if mantissa % 2 = 0 then low * d ≤ n && n ≤ high * d else low * d < n && n < high * d

/-- The nearest decimal with its last digit at a place that rounds to the number; of two that are
equally near the greater. -/
def nearest? (mantissa : Nat) (exponent place : Int) : Option Decimal :=
  let (n, d) := quotient mantissa exponent
  let (n, d) := scaled 10 n d (-place)
  let below : Decimal := ⟨n / d, place⟩
  let above : Decimal := ⟨n / d + 1, place⟩
  match roundsTo mantissa exponent below, roundsTo mantissa exponent above with
  | true, true => some (if 2 * (n % d) < d then below else above)
  | true, false => some below
  | false, true => some above
  | false, false => none

/-- The decimal with the fewest digits that rounds to the number; 17 are always enough. -/
def shortest (mantissa : Nat) (exponent : Int) : Decimal :=
  let (n, d) := quotient mantissa exponent
  let first := magnitude n d
  ((List.range 17).findSome? fun (i : Nat) => nearest? mantissa exponent (first - i)).getD ⟨0, 0⟩

def dropZeros (digits : List Char) : List Char := (digits.reverse.dropWhile (· == '0')).reverse

/-- Digits, the last of them at `exponent`, before and after the point. -/
def parts (digits : List Char) (exponent : Int) : List Char × List Char :=
  if exponent ≥ 0 then (digits ++ List.replicate exponent.toNat '0', [])
  else
    let places := (-exponent).toNat
    let digits := List.replicate (places + 1 - digits.length) '0' ++ digits
    (digits.take (digits.length - places), digits.drop (digits.length - places))

def withSign (negative : Bool) (cs : List Char) : String :=
  String.ofList (if negative then '-' :: cs else cs)

/-- The text with the fewest digits. -/
def write : Double → String
  | infinite negative => withSign negative "inf".toList
  | finite negative 0 _ => withSign negative ['0']
  | finite negative m e =>
    let x := shortest m e
    let (whole, fraction) := parts (Nat.toDigits 10 x.digits) x.exponent
    let fraction := dropZeros fraction
    withSign negative (if fraction.isEmpty then whole else whole ++ '.' :: fraction)

def significant : Nat := 15

/-- The digits of an exponent, at least two. -/
def exponentDigits (n : Nat) : List Char :=
  let digits := Nat.toDigits 10 n
  List.replicate (2 - digits.length) '0' ++ digits

/-- A fraction of at least one digit, with the point before it. -/
def fractionText (digits : List Char) : List Char :=
  let digits := dropZeros digits
  '.' :: if digits.isEmpty then ['0'] else digits

/-- The text with 15 significant digits, a half rounded up. It has an exponent if the first digit
stands before the 15th place or after the fourth behind the point, and always a fraction. -/
def writeRounded : Double → String
  | infinite negative => withSign negative "Inf".toList
  | finite _ 0 _ => "0.0"
  | finite negative m e =>
    let (n, d) := quotient m e
    let first := magnitude n d
    let (n, d) := scaled 10 n d (significant - 1 - first)
    let q := (2 * n + d) / (2 * d)
    let (q, first) := if q = Nat.pow 10 significant then (q / 10, first + 1) else (q, first)
    let digits := Nat.toDigits 10 q
    if first < -4 || first > significant - 1 then
      withSign negative (digits.take 1 ++ fractionText (digits.drop 1) ++ 'e' ::
        (if first < 0 then '-' else '+') :: exponentDigits first.natAbs)
    else
      let (whole, fraction) := parts digits (first - (significant - 1))
      withSign negative (whole ++ fractionText fraction)

end TableSearch.Double
