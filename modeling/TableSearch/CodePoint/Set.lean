import TableSearch.Text.Integer

/-!
# Sets of code points

A set of Unicode scalar values as ranges in increasing order. Tables are written in the notation
of the Unicode character database: hexadecimal ranges `lo..hi` between blanks.
-/
namespace TableSearch

/-- A set of scalar values: ranges of code points, both ends included, increasing and apart. -/
structure CodeSet where
  ranges : List (Nat × Nat)
  deriving DecidableEq, Repr, Inhabited

namespace CodeSet

/-- Whether a code point lies in one of the increasing ranges. -/
def containsIn (n : Nat) : List (Nat × Nat) → Bool
  | [] => false
  | (lo, hi) :: rest => if n < lo then false else n ≤ hi || containsIn n rest

def containsCode (s : CodeSet) (n : Nat) : Bool := containsIn n s.ranges

def contains (s : CodeSet) (c : Char) : Bool := s.containsCode c.toNat

/-- Join the range from `lo` to `hi` with those of the following ranges that it touches. -/
def joinFrom (lo hi : Nat) : List (Nat × Nat) → List (Nat × Nat)
  | [] => [(lo, hi)]
  | (lo', hi') :: rest =>
    if lo' ≤ hi + 1 then joinFrom lo (max hi hi') rest else (lo, hi) :: joinFrom lo' hi' rest

/-- Join ranges that touch or overlap, given in the order of their starts. -/
def join : List (Nat × Nat) → List (Nat × Nat)
  | [] => []
  | (lo, hi) :: rest => joinFrom lo hi rest

/-- The set of the given ranges in any order. -/
def ofRanges (ranges : List (Nat × Nat)) : CodeSet :=
  ⟨join (ranges.mergeSort fun a b => a.1 ≤ b.1)⟩

def single (c : Char) : CodeSet := ⟨[(c.toNat, c.toNat)]⟩

def union (a b : CodeSet) : CodeSet := ofRanges (a.ranges ++ b.ranges)

/-- The gaps that increasing ranges leave from `start` to `stop`. -/
def gaps (start stop : Nat) : List (Nat × Nat) → List (Nat × Nat)
  | [] => if start ≤ stop then [(start, stop)] else []
  | (lo, hi) :: rest =>
    if start < lo then (start, min stop (lo - 1)) :: gaps (hi + 1) stop rest
    else gaps (max start (hi + 1)) stop rest

def inter (a b : CodeSet) : CodeSet :=
  ofRanges (a.ranges.flatMap fun (lo, hi) =>
    b.ranges.filterMap fun (lo', hi') =>
      if max lo lo' ≤ min hi hi' then some (max lo lo', min hi hi') else none)

def all : CodeSet := ⟨[(0, 0xD7FF), (0xE000, 0x10FFFF)]⟩

/-- The scalar values that are no members. -/
def compl (s : CodeSet) : CodeSet := inter all ⟨gaps 0 0x10FFFF s.ranges⟩

def diff (a b : CodeSet) : CodeSet := inter a b.compl

def symmDiff (a b : CodeSet) : CodeSet := union (diff a b) (diff b a)

def hexNumber (digits : String.Slice) : Nat :=
  digits.foldl (fun n c => n * 16 + (if c.isDigit then c.toNat - 48 else c.toNat - 55)) 0

/-- The ranges of a table: `lo..hi`, or one code point, between blanks. -/
def ofText (table : String) : CodeSet :=
  ⟨(table.split Char.isWhitespace).toList.filterMap fun entry =>
    if entry.isEmpty then none
    else
      match (entry.split "..").toList with
      | [lo, hi] => some (hexNumber lo, hexNumber hi)
      | _ => some (hexNumber entry, hexNumber entry)⟩

/-- Classes of code points: hexadecimal numbers joined by commas, between blanks. -/
def classesOfText (table : String) : List (List Nat) :=
  (table.split Char.isWhitespace).toList.filterMap fun entry =>
    if entry.isEmpty then none else some ((entry.split ',').toList.map hexNumber)

end CodeSet

end TableSearch
