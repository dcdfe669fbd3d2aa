import TableSearch.Regex.Search

/-!
# Replacement templates

In a template `$name` and `${name}` stand for the text of a group, given by number or name, and
`$$` for a dollar sign. A group that is unknown or took no part stands for nothing.
-/
namespace TableSearch.Regex

/-- A piece of a template. -/
inductive Piece where
  | char (c : Char)
  /-- The group that a name or number denotes. -/
  | group (name : List Char)
  deriving DecidableEq, Repr, Inhabited

def isReferenceChar (c : Char) : Bool := c.isAlphanum || c == '_'

/-- The pieces of a template. A dollar sign that introduces nothing stands for itself. -/
def pieces : Nat → List Char → List Piece
  | 0, _ => []
  | _, [] => []
  | fuel + 1, '$' :: '$' :: cs => .char '$' :: pieces fuel cs
  | fuel + 1, '$' :: '\x7b' :: cs =>
    match cutAt? ['\x7d'] cs with
    | some (name, cs) => .group name :: pieces fuel cs
    | none => .char '$' :: pieces fuel ('\x7b' :: cs)
  | fuel + 1, '$' :: cs =>
    let name := cs.takeWhile isReferenceChar
    if name.isEmpty then .char '$' :: pieces fuel cs
    else .group name :: pieces fuel (cs.drop name.length)
  | fuel + 1, c :: cs => .char c :: pieces fuel cs

/-- The group number that a reference denotes: a number below 2^64, or the name of a group. -/
def Matcher.groupNumber? (m : Matcher) (name : List Char) : Option Nat :=
  let digits := match name with
    | '+' :: cs => cs
    | cs => cs
  match (Text.readNat? digits).filter (· < 0x10000000000000000) with
  | some n => some n
  | none => m.names.lookup (String.ofList name)

/-- Where group `i` of a match lies; group 0 is the match. -/
def Match.group? (found : Match) : Nat → Option (Nat × Nat)
  | 0 => some (found.start, found.stop)
  | i + 1 => (found.groups[i]?).join

def Piece.expand (m : Matcher) (text : List Char) (found : Match) : Piece → List Char
  | char c => [c]
  | group name =>
    match (m.groupNumber? name).bind found.group? with
    | some (start, stop) => slice text start stop
    | none => []

/-- The replacement of a match: the template with the groups filled in. -/
def Matcher.expand (m : Matcher) (template : List Char) (text : List Char) (found : Match) :
    List Char :=
  (pieces (template.length + 1) template).flatMap (Piece.expand m text found)

/-- Put replacements in place of successive matches, the text going on at a position. -/
def substitute (text : List Char) (replacement : Match → List Char) :
    Nat → List Match → List Char
  | start, [] => text.drop start
  | start, found :: rest =>
    slice text start found.start ++ replacement found ++
      substitute text replacement found.stop rest

end TableSearch.Regex
