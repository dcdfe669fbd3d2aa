import TableSearch.CodePoint.Class
import TableSearch.Json.Reader
import TableSearch.Regex.Flags
import TableSearch.Regex.Node

/-!
# Atoms of a pattern

What a backslash introduces: characters by number, classes by name and positions. The readers
take the rest of the pattern and give back what they leave of it.
-/
namespace TableSearch.Regex

/-- Drop blanks and comments up to the end of their line, `inComment` saying where we are. -/
def skipVerbose (inComment : Bool) : List Char → List Char
  | [] => []
  | c :: cs =>
    if inComment then skipVerbose (c != '\n') cs
    else if Text.isBlank c then skipVerbose false cs
    else if c == '#' then skipVerbose true cs
    else c :: cs

def Flags.skip (f : Flags) (cs : List Char) : List Char :=
  if f.verbose then skipVerbose false cs else cs

/-- An item of a pattern or of a bracketed class. -/
inductive Atom where
  | char (c : Char)
  | set (s : CodeSet)
  | look (l : Look)
  deriving Repr, Inhabited

/-- The characters that have a meaning of their own. -/
def isMeta (c : Char) : Bool := "\\.+*?()|[]\x7b\x7d^$#&-~".toList.contains c

/-- Whether a backslash before `c` means `c`: signs of ASCII that are not reserved. -/
def isEscapable (c : Char) : Bool :=
  isMeta c || (c.toNat < 0x80 && !c.isAlphanum && c != '<' && c != '>')

def complInBytes (s : CodeSet) : CodeSet := CodeSet.inter ⟨[(0, 0xFF)]⟩ s.compl

def Flags.compl (f : Flags) (s : CodeSet) : CodeSet :=
  if f.unicode then s.compl else complInBytes s

def closeUnderAsciiCase (s : CodeSet) : CodeSet :=
  let small := CodeSet.inter s ⟨[(0x61, 0x7A)]⟩
  let capital := CodeSet.inter s ⟨[(0x41, 0x5A)]⟩
  CodeSet.ofRanges (s.ranges ++ small.ranges.map (fun (a, b) => (a - 32, b - 32)) ++
    capital.ranges.map fun (a, b) => (a + 32, b + 32))

/-- Close a set under case if case is ignored. -/
def Flags.fold (f : Flags) (s : CodeSet) : CodeSet :=
  if !f.ignoreCase then s
  else if f.unicode then CodePoint.closeUnderCase s
  else closeUnderAsciiCase s

/-- The class that a letter names, not negated. -/
def Flags.letterClass? (f : Flags) : Char → Option CodeSet
  | 'd' => some (if f.unicode then CodePoint.digits else ⟨[(0x30, 0x39)]⟩)
  | 's' => some (if f.unicode then CodePoint.blanks else ⟨[(9, 13), (0x20, 0x20)]⟩)
  | 'w' =>
    some (if f.unicode then CodePoint.wordCharacters
      else ⟨[(0x30, 0x39), (0x41, 0x5A), (0x5F, 0x5F), (0x61, 0x7A)]⟩)
  | _ => none

/-- The character with a number, if there is one. -/
def scalar? (n : Nat) : Option Char :=
  if n < 0xD800 || (0xDFFF < n && n < 0x110000) then some (Char.ofNat n) else none

def hexRun? (f : Flags) : Nat → List Char → Nat → Option (Nat × List Char)
  | 0, cs, acc => some (acc, cs)
  | count + 1, c :: cs, acc => do
    hexRun? f count (f.skip cs) (acc * 16 + (← Json.Reader.hexValue? c))
  | _ + 1, [], _ => none

def hexBraced? (f : Flags) : Nat → List Char → List Nat → Option (Nat × List Char)
  | 0, _, _ => none
  | fuel + 1, cs, acc =>
    match f.skip cs with
    | '\x7d' :: cs =>
      let n := acc.reverse.foldl (fun n d => n * 16 + d) 0
      if acc.isEmpty || n ≥ 0x100000000 then none else some (n, f.skip cs)
    | c :: cs => do hexBraced? f fuel cs ((← Json.Reader.hexValue? c) :: acc)
    | [] => none

/-- Read a character by its number, after the letter that tells the number of digits. -/
def hexEscape (f : Flags) (digits : Nat) (cs : List Char) :
    Except PatternError (Atom × List Char) :=
  let read := match f.skip cs with
    | '\x7b' :: cs => (hexBraced? f (cs.length + 1) cs []).map fun (n, cs) => (n, false, cs)
    | cs => (hexRun? f digits cs 0).map fun (n, cs) => (n, digits == 2, cs)
  match read with
  | none => .error .badEscape
  | some (n, isByte, cs) =>
    match scalar? n with
    | none => .error .badEscape
    | some c =>
      if isByte && !f.unicode && n ≥ 0x80 then .error .notText else .ok (.char c, cs)

def braced? (f : Flags) : Nat → List Char → List Char → Option (List Char × List Char)
  | 0, _, _ => none
  | fuel + 1, cs, acc =>
    match f.skip cs with
    | '\x7d' :: cs => some (acc.reverse, cs)
    | c :: cs => braced? f fuel cs (c :: acc)
    | [] => none

def cutAt? (mark : List Char) : List Char → Option (List Char × List Char)
  | [] => none
  | c :: cs =>
    if mark.isPrefixOf (c :: cs) then some ([], (c :: cs).drop mark.length)
    else (cutAt? mark cs).map fun (before, after) => (c :: before, after)

/-- The class that a name in braces denotes: a name, or a property with a value. -/
def bracedClass? (name : List Char) : Option (Bool × CodeSet) :=
  match cutAt? ['!', '='] name with
  | some (property, value) => (CodePoint.valued? property value).map (true, ·)
  | none =>
    match cutAt? [':'] name <|> cutAt? ['='] name with
    | some (property, value) => (CodePoint.valued? property value).map (false, ·)
    | none => (CodePoint.named? name).map (false, ·)

/-- Read a class by its Unicode name, after `p` or `P`. -/
def namedClass (f : Flags) (negated : Bool) (cs : List Char) :
    Except PatternError (Atom × List Char) :=
  let read := match f.skip cs with
    | '\x7b' :: cs => (braced? f (cs.length + 1) cs []).map fun (name, cs) => (bracedClass? name, cs)
    | '\\' :: _ => none
    | c :: cs => some ((CodePoint.named? [c]).map (false, ·), f.skip cs)
    | [] => none
  match read with
  | none => .error .badEscape
  | some (none, _) => .error .unknownClass
  | some (some (inverted, s), cs) =>
    if !f.unicode then .error .notText
    else
      let s := f.fold s
      .ok (.set (if negated != inverted then s.compl else s), cs)

/-- Read what may follow `\b`: the kind of word edge in braces. -/
def wordEdge (f : Flags) (cs : List Char) : Except PatternError (Atom × List Char) :=
  let plain : Atom := .look (.wordEdge !f.unicode)
  let isLetter (c : Char) : Bool := c.isAlpha || c == '-'
  match cs with
  | '\x7b' :: inner =>
    match f.skip inner with
    | [] => .error .badEscape
    | c :: rest =>
      if !isLetter c then .ok (plain, cs)
      else
        match braced? f (rest.length + 2) (c :: rest) [] with
        | none => .error .badEscape
        | some (name, cs) =>
          match String.ofList name with
          | "start" => .ok (.look (.wordStart !f.unicode), cs)
          | "end" => .ok (.look (.wordEnd !f.unicode), cs)
          | "start-half" => .ok (.look (.wordStartHalf !f.unicode), cs)
          | "end-half" => .ok (.look (.wordEndHalf !f.unicode), cs)
          | _ => .error .badEscape
  | cs => .ok (plain, cs)

def escape (f : Flags) : List Char → Except PatternError (Atom × List Char)
  | [] => .error .badEscape
  | c :: cs =>
    match c with
    | 'x' => hexEscape f 2 cs
    | 'u' => hexEscape f 4 cs
    | 'U' => hexEscape f 8 cs
    | 'p' => namedClass f false cs
    | 'P' => namedClass f true cs
    | 'a' => .ok (.char '\x07', cs)
    | 'f' => .ok (.char '\x0c', cs)
    | 't' => .ok (.char '\t', cs)
    | 'n' => .ok (.char '\n', cs)
    | 'r' => .ok (.char '\r', cs)
    | 'v' => .ok (.char '\x0b', cs)
    | 'A' => .ok (.look .textStart, cs)
    | 'z' => .ok (.look .textEnd, cs)
    | 'b' => wordEdge f cs
    | 'B' => .ok (.look (.notWordEdge !f.unicode), cs)
    | '<' => .ok (.look (.wordStart !f.unicode), cs)
    | '>' => .ok (.look (.wordEnd !f.unicode), cs)
    | c =>
      match f.letterClass? c, f.letterClass? c.toLower with
      | some s, _ => .ok (.set s, cs)
      | none, some s => .ok (.set (f.compl s), cs)
      | none, none => if isEscapable c then .ok (.char c, cs) else .error .badEscape

end TableSearch.Regex
