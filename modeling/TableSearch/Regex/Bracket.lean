import TableSearch.Regex.Escape

/-!
# Bracketed classes

A class in brackets lists characters, ranges, named classes and further brackets; `&&`, `--` and
`~~` combine what stands on their two sides, from left to right.
-/
namespace TableSearch.Regex

def asciiClasses : List (String × List (Nat × Nat)) := [
  ("alnum", [(0x30, 0x39), (0x41, 0x5A), (0x61, 0x7A)]),
  ("alpha", [(0x41, 0x5A), (0x61, 0x7A)]),
  ("ascii", [(0, 0x7F)]),
  ("blank", [(9, 9), (0x20, 0x20)]),
  ("cntrl", [(0, 0x1F), (0x7F, 0x7F)]),
  ("digit", [(0x30, 0x39)]),
  ("graph", [(0x21, 0x7E)]),
  ("lower", [(0x61, 0x7A)]),
  ("print", [(0x20, 0x7E)]),
  ("punct", [(0x21, 0x2F), (0x3A, 0x40), (0x5B, 0x60), (0x7B, 0x7E)]),
  ("space", [(9, 13), (0x20, 0x20)]),
  ("upper", [(0x41, 0x5A)]),
  ("word", [(0x30, 0x39), (0x41, 0x5A), (0x5F, 0x5F), (0x61, 0x7A)]),
  ("xdigit", [(0x30, 0x39), (0x41, 0x46), (0x61, 0x66)])]

/-- Read an ASCII class after its opening bracket: `:name:]` or `:^name:]`. -/
def asciiClass? (f : Flags) : List Char → Option (CodeSet × List Char)
  | ':' :: cs => do
    let (negated, cs) := match cs with
      | '^' :: cs => (true, cs)
      | cs => (false, cs)
    let (name, cs) ← cutAt? [':'] cs
    match cs with
    | ']' :: cs =>
      let s := f.fold ⟨← asciiClasses.lookup (String.ofList name)⟩
      some (if negated then f.compl s else s, cs)
    | _ => none
  | _ => none

/-- How the two sides of a combination are combined. -/
inductive Combination where
  | inter
  | diff
  | symmDiff
  deriving DecidableEq, Repr

def Combination.apply : Combination → CodeSet → CodeSet → CodeSet
  | inter => CodeSet.inter
  | diff => CodeSet.diff
  | symmDiff => CodeSet.symmDiff

/-- What was read of a bracketed class: the left side of a combination, and the ranges since. -/
structure Bracket where
  left : Option (Combination × CodeSet) := none
  ranges : List (Nat × Nat) := []

namespace Bracket

def add (b : Bracket) (ranges : List (Nat × Nat)) : Bracket := { b with ranges := ranges ++ b.ranges }

def toSet (f : Flags) (b : Bracket) : CodeSet :=
  let right := CodeSet.ofRanges b.ranges
  match b.left with
  | none => right
  | some (op, left) => op.apply (f.fold left) (f.fold right)

def combine (f : Flags) (b : Bracket) (op : Combination) : Bracket :=
  { left := some (op, b.toSet f) }

end Bracket

def bracketItem (f : Flags) : List Char → Except PatternError (Atom × List Char)
  | [] => .error .unclosedClass
  | '\\' :: cs => escape f cs
  | c :: cs => .ok (.char c, cs)

def Atom.ranges (f : Flags) : Atom → Except PatternError (List (Nat × Nat))
  | char c => if !f.unicode && c.toNat ≥ 0x80 then .error .notText else .ok [(c.toNat, c.toNat)]
  | set s => .ok s.ranges
  | look _ => .error .badClassItem

/-- Read an item, or a range of characters between two items. -/
def bracketRange (f : Flags) (cs : List Char) :
    Except PatternError (List (Nat × Nat) × List Char) := do
  let (first, cs) ← bracketItem f cs
  let alone : Except PatternError (List (Nat × Nat) × List Char) :=
    (first.ranges f).map (·, f.skip cs)
  match f.skip cs with
  | [] => .error .unclosedClass
  | '-' :: rest =>
    match f.skip rest with
    | [] => .error .unclosedClass
    | ']' :: _ => alone
    | '-' :: _ => alone
    | rest =>
      let (last, cs) ← bracketItem f rest
      match first, last with
      | .char a, .char b =>
        if !f.unicode && (a.toNat ≥ 0x80 || b.toNat ≥ 0x80) then .error .notText
        else if a ≤ b then .ok ([(a.toNat, b.toNat)], cs)
        else .error .badRange
      | _, _ => .error .badRange
  | _ => alone

/-- Read the hyphens at the beginning of a class, which stand for themselves. -/
def leadingHyphens (f : Flags) : Nat → List Char → Bracket → Bracket × List Char
  | 0, cs, b => (b, cs)
  | fuel + 1, cs, b =>
    match cs with
    | '-' :: cs => leadingHyphens f fuel (f.skip cs) (b.add [(0x2D, 0x2D)])
    | cs => (b, cs)

/-- Read the beginning of a class after its opening bracket: whether it is negated, and the
hyphens or the closing bracket that stand for themselves there. -/
def bracketOpen (f : Flags) (cs : List Char) : Bool × Bracket × List Char :=
  let (negated, cs) := match f.skip cs with
    | '^' :: cs => (true, f.skip cs)
    | cs => (false, cs)
  let (b, cs) := leadingHyphens f cs.length cs {}
  match b.ranges, cs with
  | [], ']' :: cs => (negated, b.add [(0x5D, 0x5D)], f.skip cs)
  | _, cs => (negated, b, cs)

/-- Read a class up to its closing bracket. -/
def bracketed (f : Flags) :
    Nat → Bool → Bracket → List Char → Except PatternError (CodeSet × List Char)
  | 0, _, _, _ => .error .unclosedClass
  | fuel + 1, negated, b, cs =>
    match f.skip cs with
    | [] => .error .unclosedClass
    | ']' :: cs =>
      let s := f.fold (b.toSet f)
      .ok (if negated then f.compl s else s, cs)
    | '[' :: cs =>
      match asciiClass? f cs with
      | some (s, cs) => bracketed f fuel negated (b.add s.ranges) cs
      | none =>
        let (negatedInner, inner, cs) := bracketOpen f cs
        match bracketed f fuel negatedInner inner cs with
        | .error e => .error e
        | .ok (s, cs) => bracketed f fuel negated (b.add s.ranges) cs
    | '&' :: '&' :: cs => bracketed f fuel negated (b.combine f .inter) cs
    | '-' :: '-' :: cs => bracketed f fuel negated (b.combine f .diff) cs
    | '~' :: '~' :: cs => bracketed f fuel negated (b.combine f .symmDiff) cs
    | cs =>
      match bracketRange f cs with
      | .error e => .error e
      | .ok (ranges, cs) => bracketed f fuel negated (b.add ranges) cs

def bracket (f : Flags) (cs : List Char) : Except PatternError (CodeSet × List Char) := do
  let (negated, b, rest) := bracketOpen f cs
  let (s, rest) ← bracketed f (cs.length + 1) negated b rest
  if !f.unicode && s.ranges.any fun r => r.2 ≥ 0x80 then .error .notText else .ok (s, rest)

end TableSearch.Regex
