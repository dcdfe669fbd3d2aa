/-!
# Decimal text of integers

An integer is written as an optional minus sign and its decimal digits; it is read back from an
optional sign of either kind and at least one ASCII digit. Reading undoes writing
(`readInteger?_integerChars`, `readInt64?_writeInt64`).
-/
namespace TableSearch.Text

/-- The decimal digits of `n`, after a minus sign if `n` is negative. -/
def integerChars : Int → List Char
  | .ofNat n => Nat.toDigits 10 n
  | .negSucc n => '-' :: Nat.toDigits 10 (n + 1)

def writeInteger (n : Int) : String := String.ofList (integerChars n)

def writeNat (n : Nat) : String := String.ofList (Nat.toDigits 10 n)

/-- The number that a non-empty run of ASCII digits denotes. -/
def readNat? (cs : List Char) : Option Nat :=
  if !cs.isEmpty && cs.all Char.isDigit then some (Nat.ofDigitChars 10 cs 0) else none

/-- An optional sign and at least one digit. -/
def readInteger? : List Char → Option Int
  | '-' :: cs => (readNat? cs).map fun n => -(n : Int)
  | '+' :: cs => (readNat? cs).map Int.ofNat
  | cs => (readNat? cs).map Int.ofNat

def fitsInt64 (n : Int) : Bool := -0x8000000000000000 ≤ n && n < 0x8000000000000000

/-- `n` as a 64-bit integer, if it is one. -/
def toInt64? (n : Int) : Option Int64 := if fitsInt64 n then some (Int64.ofInt n) else none

def readInt64? (s : String) : Option Int64 := (readInteger? s.toList).bind toInt64?

def writeInt64 (n : Int64) : String := writeInteger n.toInt

theorem all_isDigit_toDigits (n : Nat) : (Nat.toDigits 10 n).all Char.isDigit := by
  rw [List.all_eq_true]
  intro c hc
  exact Nat.isDigit_of_mem_toDigits (by decide) (by decide) hc

theorem readNat?_toDigits (n : Nat) : readNat? (Nat.toDigits 10 n) = some n := by
  have h : (Nat.toDigits 10 n).isEmpty = false := by
    simp [Nat.toDigits_ne_nil]
  simp [readNat?, h, all_isDigit_toDigits, Nat.ofDigitChars_ten_toDigits]

theorem readInteger?_of_digit {c : Char} {cs : List Char} (h : c.isDigit) :
    readInteger? (c :: cs) = (readNat? (c :: cs)).map Int.ofNat := by
  unfold readInteger?
  split
  · rename_i e; cases e; exact absurd h (by decide)
  · rename_i e; cases e; exact absurd h (by decide)
  · rfl

theorem readInteger?_integerChars (n : Int) : readInteger? (integerChars n) = some n := by
  cases n with
  | ofNat n =>
    simp only [integerChars]
    have hd := readNat?_toDigits n
    have ha := all_isDigit_toDigits n
    cases h : Nat.toDigits 10 n with
    | nil => exact absurd h Nat.toDigits_ne_nil
    | cons c cs =>
      rw [h] at hd ha
      have hc : c.isDigit := by simp_all
      rw [readInteger?_of_digit hc, hd]
      rfl
  | negSucc n =>
    simp only [integerChars, readInteger?, readNat?_toDigits]
    rfl

theorem toInt64?_toInt (n : Int64) : toInt64? n.toInt = some n := by
  have h1 := n.le_toInt
  have h2 := n.toInt_lt
  have : fitsInt64 n.toInt = true := by
    simp [fitsInt64]; omega
  simp [toInt64?, this]

theorem readInt64?_writeInt64 (n : Int64) : readInt64? (writeInt64 n) = some n := by
  simp [readInt64?, writeInt64, writeInteger, readInteger?_integerChars, toInt64?_toInt]

end TableSearch.Text
