import TableSearch.Filter
import TableSearch.Regex.Template

/-!
# Search phrases

A phrase is a literal text or a pattern that is looked for in every searched column. With a
replacement it can also be applied: every match is replaced, the empty ones included. The
replacement of a pattern is a template, that of a literal text stands for itself.
-/
namespace TableSearch

/-- A phrase as a caller writes it. -/
structure Phrase where
  pattern : String
  /-- Whether the pattern is a regular expression. -/
  regex : Bool := false
  ignoreCase : Bool := false
  replacement : Option String := none
  deriving DecidableEq, Repr, Inhabited

/-- What matches are replaced by. -/
inductive Replacement where
  | verbatim (text : String)
  /-- Group references are filled in. -/
  | template (text : String)
  deriving DecidableEq, Repr, Inhabited

/-- A phrase ready to run. -/
structure Finder where
  matcher : Regex.Matcher
  replacement : Option Replacement
  deriving Inhabited

def Phrase.compile (p : Phrase) : Except FilterError Finder :=
  if p.pattern.isEmpty then .error (.invalidPattern .emptyPhrase)
  else if p.regex then
    match Regex.Matcher.compile { ignoreCase := p.ignoreCase } p.pattern with
    | .ok matcher => .ok ⟨matcher, p.replacement.map .template⟩
    | .error e => .error (.invalidPattern (.malformed e))
  else
    match Regex.Matcher.compileLiteral { ignoreCase := p.ignoreCase } p.pattern with
    | .ok matcher => .ok ⟨matcher, p.replacement.map .verbatim⟩
    | .error e => .error (.invalidPattern (.malformed e))

def Replacement.apply (matcher : Regex.Matcher) (text : List Char) (found : Regex.Match) :
    Replacement → List Char
  | verbatim s => s.toList
  | template s => matcher.expand s.toList text found

namespace Finder

/-- Whether a text has a match, be it an empty one. -/
def isMatch (f : Finder) (text : String) : Bool := f.matcher.isMatch text.toList

/-- The text that takes the place of a match, if there is a replacement. -/
def replacementOf (f : Finder) (text : List Char) (found : Regex.Match) : Option (List Char) :=
  f.replacement.map (·.apply f.matcher text found)

/-- Replace every match in a text. -/
def replaceAll (f : Finder) (text : String) : Except FilterError String :=
  match f.replacement with
  | none => .error .missingReplacement
  | some r =>
    let cs := text.toList
    let replaced := Regex.substitute cs (fun found => r.apply f.matcher cs found) 0
      (f.matcher.matchesIn cs)
    .ok (String.ofList replaced)

end Finder

end TableSearch
