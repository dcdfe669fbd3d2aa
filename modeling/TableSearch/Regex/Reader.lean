import TableSearch.Regex.Bracket

/-!
# Reading patterns

The text of a pattern as a tree. Flags set in a pattern hold to the end of the group around them.
Patterns whose groups, repetitions, sequences and alternatives nest too deeply are refused. How
deeply brackets nest within a class is not counted.
-/
namespace TableSearch.Regex

/-- What the reader keeps: the flags in force, how many groups were opened, the names given and
the numbers of their groups. -/
structure Reading where
  flags : Flags
  groups : Nat := 0
  names : List (String × Nat) := []

/-- The set of the characters that the point matches. -/
def Flags.point (f : Flags) : CodeSet :=
  if f.dotAll then CodeSet.all
  else if f.anyLineEnd then CodeSet.compl ⟨[(10, 10), (13, 13)]⟩
  else CodeSet.compl ⟨[(10, 10)]⟩

def Flags.caret (f : Flags) : Look :=
  if f.multiLine then (if f.anyLineEnd then .lineStartAny else .lineStart) else .textStart

def Flags.dollar (f : Flags) : Look :=
  if f.multiLine then (if f.anyLineEnd then .lineEndAny else .lineEnd) else .textEnd

def Atom.toNode (f : Flags) : Atom → Except PatternError Node
  | char c => .ok (.set (if f.unicode || c.toNat < 0x80 then f.fold (.single c) else .single c))
  | set s =>
    if !f.unicode && s.ranges.any fun r => r.2 ≥ 0x80 then .error .notText else .ok (.set s)
  | look l => .ok (.look l)

/-- Read one character, escape, point or position. -/
def primitive (f : Flags) : List Char → Except PatternError (Node × List Char)
  | [] => .ok (.empty, [])
  | '\\' :: cs => do
    let (atom, cs) ← escape f cs
    return (← atom.toNode f, cs)
  | '.' :: cs => if f.unicode then .ok (.set f.point, cs) else .error .notText
  | '^' :: cs => .ok (.look f.caret, cs)
  | '$' :: cs => .ok (.look f.dollar, cs)
  | c :: cs => do return (← (Atom.char c).toNode f, cs)

/-- Read the letters of a flag group up to `:` or `)`. `on` tells whether they set or clear;
`seen` lists the letters and the minus sign read before. -/
def flagLetters (f : Flags) (on : Bool) (seen : List Char) :
    List Char → Except PatternError (Flags × List Char × List Char)
  | [] => .error .badFlags
  | c :: cs =>
    if c == ':' || c == ')' then
      if seen.head? == some '-' then .error .badFlags else .ok (f, seen, c :: cs)
    else if seen.contains c then .error .badFlags
    else if c == '-' then flagLetters f false ('-' :: seen) cs
    else
      match f.set? c on with
      | none => .error .badFlags
      | some f => flagLetters f on (c :: seen) cs

def isNameChar (first : Bool) (c : Char) : Bool :=
  c == '_' || CodePoint.alphabetic.contains c ||
    (!first && (c == '.' || c == '[' || c == ']' || CodePoint.numbers.contains c))

def groupName? (cs : List Char) : Option (String × List Char) := do
  let (name, cs) ← cutAt? ['>'] cs
  match name with
  | [] => none
  | c :: rest =>
    if isNameChar true c && rest.all (isNameChar false) then some (String.ofList name, cs) else none

/-- What an opening parenthesis begins. -/
inductive Opening where
  /-- Flags for the rest of the group around. -/
  | flags (f : Flags)
  /-- A group, with a number if it captures. -/
  | group (index : Option Nat) (inner : Reading)

def Reading.capture (r : Reading) : Opening :=
  .group (some (r.groups + 1)) { r with groups := r.groups + 1 }

def Reading.named (r : Reading) (cs : List Char) : Except PatternError (Opening × List Char) :=
  match groupName? cs with
  | none => .error .badGroupName
  | some (name, cs) =>
    if (r.names.lookup name).isSome then .error .badGroupName
    else .ok ({ r with names := (name, r.groups + 1) :: r.names }.capture, cs)

def Reading.opening (r : Reading) (cs : List Char) : Except PatternError (Opening × List Char) :=
  match r.flags.skip cs with
  | '?' :: '=' :: _ => .error .lookAround
  | '?' :: '!' :: _ => .error .lookAround
  | '?' :: '<' :: '=' :: _ => .error .lookAround
  | '?' :: '<' :: '!' :: _ => .error .lookAround
  | '?' :: 'P' :: '<' :: cs => r.named cs
  | '?' :: '<' :: cs => r.named cs
  | '?' :: cs =>
    match flagLetters r.flags true [] cs with
    | .error e => .error e
    | .ok (f, seen, ')' :: cs) =>
      if seen.isEmpty then .error .missingOperand else .ok (.flags f, cs)
    | .ok (f, _, _ :: cs) => .ok (.group none { r with flags := f }, cs)
    | .ok (_, _, []) => .error .unclosedGroup
  | cs => .ok (r.capture, cs)

/-- The digits of a count, blanks allowed around them. -/
def countDigits (f : Flags) : Nat → List Char → List Char → List Char × List Char
  | 0, cs, acc => (acc.reverse, cs)
  | fuel + 1, cs, acc =>
    match cs with
    | c :: rest =>
      if c.isDigit then countDigits f fuel (f.skip rest) (c :: acc) else (acc.reverse, cs)
    | [] => (acc.reverse, [])

/-- Read a count; `none` stands for a count without digits. -/
def count? (f : Flags) (cs : List Char) : Option (Option Nat × List Char) :=
  let (digits, rest) := countDigits f cs.length (cs.dropWhile Text.isBlank) []
  let n := Nat.ofDigitChars 10 digits 0
  if n ≥ 0x100000000 then none
  else some (if digits.isEmpty then none else some n, f.skip (rest.dropWhile Text.isBlank))

/-- Read a count in braces after its opening brace: the least and the largest number of copies. -/
def counts? (f : Flags) (cs : List Char) : Option (Nat × Option Nat × List Char) := do
  let (least, cs) ← count? f (f.skip cs)
  let least ← least
  let (most, cs) ← match cs with
    | ',' :: cs =>
      match f.skip cs with
      | '\x7d' :: cs => some (none, '\x7d' :: cs)
      | cs =>
        let (most, cs) ← count? f cs
        (most.map fun n => (some n, cs))
    | cs => some (some least, cs)
  match cs with
  | '\x7d' :: cs => if least ≤ most.getD least then some (least, most, f.skip cs) else none
  | _ => none

/-- Read the question mark that may follow a repetition: whether many copies come first. -/
def greed (f : Flags) : List Char → Bool × List Char
  | '?' :: cs => (f.swapGreed, cs)
  | cs => (!f.swapGreed, cs)

/-- The parts of a sequence, last first. `none` marks a place where flags were set. -/
abbrev Parts := List (Option Node)

def Parts.toNode (parts : Parts) : Node :=
  match parts.reverse.filterMap id with
  | [] => .empty
  | [node] => node
  | nodes => .concat nodes

def Parts.repeat (parts : Parts) (least : Nat) (most : Option Nat) (greedy : Bool) :
    Except PatternError Parts :=
  match parts with
  | some node :: parts => .ok (some (.repeated least most greedy node) :: parts)
  | _ => .error .missingOperand

/-- Repeat the last part, the operator of the repetition being read. -/
def Parts.repetition (f : Flags) (parts : Parts) (least : Nat) (most : Option Nat)
    (cs : List Char) : Except PatternError (Parts × List Char) :=
  let (greedy, cs) := greed f cs
  (parts.repeat least most greedy).map (·, cs)

/-- The alternatives that were read; `branches` holds all but the last, last first. -/
def alternatives (branches : List Node) (parts : Parts) : Node :=
  match branches with
  | [] => parts.toNode
  | _ => .alt (branches.reverse ++ [parts.toNode])

/-- Read alternatives up to the end of the pattern or of the group around them. -/
def body (nested : Bool) : Nat → Reading → List Node → Parts → List Char →
    Except PatternError (Node × Reading × List Char)
  | 0, _, _, _, _ => .error .unclosedGroup
  | fuel + 1, r, branches, parts, cs =>
    match r.flags.skip cs with
    | [] =>
      if nested then .error .unclosedGroup else .ok (alternatives branches parts, r, [])
    | ')' :: cs =>
      if nested then .ok (alternatives branches parts, r, cs) else .error .unopenedGroup
    | '|' :: cs => body nested fuel r (parts.toNode :: branches) [] cs
    | '(' :: cs =>
      match r.opening cs with
      | .error e => .error e
      | .ok (.flags f, cs) => body nested fuel { r with flags := f } branches (none :: parts) cs
      | .ok (.group index inner, cs) =>
        match body true fuel inner [] [] cs with
        | .error e => .error e
        | .ok (node, inner, cs) =>
          body nested fuel { inner with flags := r.flags } branches
            (some (.group index node) :: parts) cs
    | '[' :: cs =>
      match bracket r.flags cs with
      | .error e => .error e
      | .ok (s, cs) => body nested fuel r branches (some (.set s) :: parts) cs
    | '?' :: cs =>
      match parts.repetition r.flags 0 (some 1) cs with
      | .error e => .error e
      | .ok (parts, cs) => body nested fuel r branches parts cs
    | '*' :: cs =>
      match parts.repetition r.flags 0 none cs with
      | .error e => .error e
      | .ok (parts, cs) => body nested fuel r branches parts cs
    | '+' :: cs =>
      match parts.repetition r.flags 1 none cs with
      | .error e => .error e
      | .ok (parts, cs) => body nested fuel r branches parts cs
    | '\x7b' :: cs =>
      match parts, counts? r.flags cs with
      | some _ :: _, none => .error .badCount
      | some _ :: _, some (least, most, cs) =>
        match parts.repetition r.flags least most cs with
        | .error e => .error e
        | .ok (parts, cs) => body nested fuel r branches parts cs
      | _, _ => .error .missingOperand
    | cs =>
      match primitive r.flags cs with
      | .error e => .error e
      | .ok (node, cs) => body nested fuel r branches (some node :: parts) cs

/-- Groups, repetitions, sequences and alternatives nest at most so deeply. -/
def maxDepth : Nat := 250

/-- The tree of a pattern read with the given flags, and the numbers of its named groups. -/
def readPattern (flags : Flags) (pattern : String) :
    Except PatternError (Node × List (String × Nat)) :=
  let cs := pattern.toList
  match body false (cs.length + 1) { flags } [] [] cs with
  | .error e => .error e
  | .ok (node, r, _) =>
    if node.depth > maxDepth then .error .tooDeep else .ok (node, r.names)

end TableSearch.Regex
