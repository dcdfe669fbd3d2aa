import TableSearch.Text.Integer

/-!
# Binary floating point numbers

The numbers of the format binary64 except NaN. A finite number is a sign, a mantissa below 2^53
and a power of two; the mantissa has 53 bits unless the exponent is the least one, so every number
has one form, and only zero has two signs.
-/
namespace TableSearch

/-- A binary64 number. -/
inductive Double where
  /-- `mantissa * 2 ^ exponent`, negated if `negative`. -/
  | finite (negative : Bool) (mantissa : Nat) (exponent : Int)
  | infinite (negative : Bool)
  deriving DecidableEq, Repr, Inhabited

namespace Double

def minExponent : Int := -1074

def maxExponent : Int := 971

def zero : Double := .finite false 0 minExponent

/-- The number with zero in its one form without a sign. -/
def unsignedZero : Double → Double
  | finite _ 0 _ => zero
  | x => x

/-- `n / d` rounded to the nearest natural number, a half to the even one. -/
def roundEven (n d : Nat) : Nat :=
  let q := n / d
  let r := n % d
  if 2 * r > d || (2 * r == d && q % 2 == 1) then q + 1 else q

/-- `n / d * base ^ e` as a quotient. -/
def scaled (base n d : Nat) (e : Int) : Nat × Nat :=
  if e ≥ 0 then (n * Nat.pow base e.toNat, d) else (n, d * Nat.pow base (-e).toNat)

/-- The number nearest to `n / d`, where `d` is not zero. -/
def ofQuotient (negative : Bool) (n d : Nat) : Double :=
  if n = 0 then .finite negative 0 minExponent
  else
    let guess := max ((n.log2 : Int) - d.log2 - 53) minExponent
    let (p, q) := scaled 2 n d (-guess)
    let e := if p ≥ q * 0x20000000000000 then guess + 1 else guess
    let (p, q) := scaled 2 n d (-e)
    let m := roundEven p q
    let (m, e) := if m = 0x20000000000000 then (0x10000000000000, e + 1) else (m, e)
    if e > maxExponent then .infinite negative else .finite negative m e

def ofDecimal (negative : Bool) (digits : Nat) (exponent : Int) : Double :=
  let size := (Nat.toDigits 10 digits).length + exponent
  if digits = 0 || size < -400 then .finite negative 0 minExponent
  else if size > 400 then .infinite negative
  else
    let (n, d) := scaled 10 digits 1 exponent
    ofQuotient negative n d

def ofInt (n : Int) : Double := ofQuotient (n < 0) n.natAbs 1

def quotient (mantissa : Nat) (exponent : Int) : Nat × Nat := scaled 2 mantissa 1 exponent

def signed (negative : Bool) (n : Nat) : Int := if negative then -(n : Int) else n

/-- The numerical order; the two zeros are equal. -/
def order : Double → Double → Ordering
  | infinite a, infinite b => compare (signed a 1) (signed b 1)
  | infinite a, _ => if a then .lt else .gt
  | _, infinite b => if b then .gt else .lt
  | finite a m e, finite b n f =>
    let (p, q) := quotient m e
    let (r, s) := quotient n f
    compare (signed a (p * s)) (signed b (r * q))

def orderInt (x : Double) (n : Int) : Ordering :=
  match x with
  | infinite a => if a then .lt else .gt
  | finite a m e =>
    let (p, q) := quotient m e
    compare (signed a p) (n * q)

/-- The integer that a number is, if it is one. -/
def toInt? : Double → Option Int
  | infinite _ => none
  | finite a m e =>
    let (p, q) := quotient m e
    if p % q = 0 then some (signed a (p / q)) else none

end Double

end TableSearch
