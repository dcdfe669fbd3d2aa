import TableSearch.Number.Decimal
import TableSearch.Text.Utf8
import TableSearch.Value

/-!
# Cells

What a database stores in a cell: null, an integer, a floating point number, the bytes of a text,
or other bytes. Cells are ordered by class, numbers by size and bytes one by one.
-/
namespace TableSearch.Sql

/-- A stored cell. A text is kept as bytes, which need not encode characters. -/
inductive Cell where
  | null
  | integer (n : Int64)
  | real (x : Double)
  | text (bytes : List UInt8)
  | blob (bytes : List UInt8)
  deriving DecidableEq, Repr, Inhabited

namespace Cell

def isNull : Cell → Bool
  | null => true
  | _ => false

def ofString (s : String) : Cell := .text (Text.Utf8.encode s)

def ofValue : Value → Cell
  | .null => .null
  | .integer n => .integer n
  | .text s => .ofString s

/-- The characters of bytes; what encodes none becomes U+FFFD. -/
def decode (bytes : List UInt8) : String := String.ofList (Text.Utf8.decode bytes)

/-- The value that a cell is read as: everything but null and integers as a text. -/
def toValue : Cell → Value
  | null => .null
  | integer n => .integer n
  | real x => .text x.write
  | text bytes => .text (decode bytes)
  | blob bytes => .text (decode bytes)

/-- The bytes of a cell as a text; numbers are written in decimal. -/
def toBytes : Cell → List UInt8
  | null => []
  | integer n => Text.Utf8.encode (Text.writeInt64 n)
  | real x => Text.Utf8.encode x.writeRounded
  | text bytes => bytes
  | blob bytes => bytes

/-- The place of a class in the order of cells. -/
def rank : Cell → Nat
  | null => 0
  | integer _ => 1
  | real _ => 1
  | text _ => 2
  | blob _ => 3

/-- The order of bytes, the first difference deciding. -/
def orderBytes : List UInt8 → List UInt8 → Ordering
  | [], [] => .eq
  | [], _ => .lt
  | _, [] => .gt
  | a :: as, b :: bs => (compare a b).then (orderBytes as bs)

/-- The order of cells: null, numbers, texts, other bytes. -/
def order : Cell → Cell → Ordering
  | integer a, integer b => compare a b
  | integer a, real y => (y.orderInt a.toInt).swap
  | real x, integer b => x.orderInt b.toInt
  | real x, real y => x.order y
  | text a, text b => orderBytes a b
  | blob a, blob b => orderBytes a b
  | a, b => compare a.rank b.rank

/-- The blanks around a number. -/
def isSpace (c : Char) : Bool := c == ' ' || (9 ≤ c.toNat && c.toNat ≤ 13)

def strip (cs : List Char) : List Char :=
  ((cs.dropWhile isSpace).reverse.dropWhile isSpace).reverse

/-- A number with a fraction or an exponent, or an integer too large for 64 bits. -/
def realOf? (cs : List Char) : Option Double := do
  let (negative, cs) := match cs with
    | '-' :: cs => (true, cs)
    | '+' :: cs => (false, cs)
    | cs => (false, cs)
  let whole := cs.takeWhile Char.isDigit
  let rest := cs.drop whole.length
  let (fraction, rest) := match rest with
    | '.' :: rest => (rest.takeWhile Char.isDigit, rest.dropWhile Char.isDigit)
    | rest => ([], rest)
  if whole.isEmpty && fraction.isEmpty then none
  let exponent ← match rest with
    | [] => some 0
    | 'e' :: rest | 'E' :: rest => Text.readInteger? rest
    | _ => none
  return .ofDecimal negative (Nat.ofDigitChars 10 (whole ++ fraction) 0)
    (exponent - fraction.length)

/-- An integral floating point number of 64 bits as an integer, any other as it is. -/
def ofReal (x : Double) : Cell :=
  match x.toInt?.bind Text.toInt64? with
  | some n => if n = Int64.minValue ∨ n = Int64.maxValue then .real x else .integer n
  | none => .real x

def number? (bytes : List UInt8) : Option Cell :=
  let cs := strip (bytes.map fun b => Char.ofNat b.toNat)
  match (Text.readInteger? cs).bind Text.toInt64? with
  | some n => some (.integer n)
  | none => (realOf? cs).map ofReal

end Cell

/-- What a column prefers its cells to be. -/
inductive Affinity where
  | integer
  | real
  | numeric
  | text
  | blob
  deriving DecidableEq, Repr, Inhabited

namespace Affinity

/-- The cell that a column stores for one that it is given. -/
def store : Affinity → Cell → Cell
  | .integer, .text bytes | .numeric, .text bytes => (Cell.number? bytes).getD (.text bytes)
  | .integer, .real x | .numeric, .real x => .ofReal x
  | .real, .integer n => .real (.ofInt n.toInt)
  | .real, .real x => .real x.unsignedZero
  | .real, .text bytes =>
    match Cell.number? bytes with
    | some (.integer n) => .real (.ofInt n.toInt)
    | some c => c
    | none => .text bytes
  | .text, .integer n => .text (Cell.integer n).toBytes
  | .text, .real x => .text (Cell.real x).toBytes
  | _, c => c

/-- The cell that a value counts as in a comparison with a column. -/
def operand : Affinity → Cell → Cell
  | .integer, .text bytes | .numeric, .text bytes | .real, .text bytes =>
    (Cell.number? bytes).getD (.text bytes)
  | .text, .integer n => .text (Cell.integer n).toBytes
  | .text, .real x => .text (Cell.real x).toBytes
  | _, c => c

end Affinity

end TableSearch.Sql
