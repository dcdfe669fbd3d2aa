import TableSearch.Phrase
import TableSearch.Value.Kind

/-!
# Contexts

A context is what a result shows of one column: the value with a label, or the value with the
places where a phrase matched. It holds the whole value; only what is displayed is cut to 200
code points, for a match to a window that begins up to 50 before the first match.
-/
namespace TableSearch

/-- The most code points that are displayed of a value. -/
def maxLength : Nat := 200

/-- The code points that are displayed before the first match. -/
def cropLead : Nat := 50

/-- The displayed beginning of a text. -/
def restrict (s : String) : String := String.ofList (s.toList.take maxLength)

/-- A match that is not empty. -/
structure Span where
  /-- Where the match begins, in code points. -/
  position : Nat
  /-- Its length in code points. -/
  length : Nat
  text : String
  /-- What a replacement would put in its place. -/
  replacement : Option String
  /-- The texts of the groups, empty for one that took no part. -/
  captures : List String
  deriving DecidableEq, Repr, Inhabited

/-- The part of a text that is displayed. -/
structure Crop where
  start : Nat
  stop : Nat
  deriving DecidableEq, Repr, Inhabited

/-- What a result shows of one column. -/
inductive Context where
  | value (id : Nat) (value label : String)
  | found (id : Nat) (value : String) (spans : List Span)
  deriving DecidableEq, Repr, Inhabited

def groupText (text : List Char) : Option (Nat × Nat) → String
  | some (start, stop) => String.ofList (Regex.slice text start stop)
  | none => ""

def Finder.spanOf (f : Finder) (text : List Char) (found : Regex.Match) : Span where
  position := found.start
  length := found.stop - found.start
  text := String.ofList (Regex.slice text found.start found.stop)
  replacement := (f.replacementOf text found).map String.ofList
  captures := found.groups.map (groupText text)

/-- The spans of the matches in a text that are not empty. -/
def Finder.spans (f : Finder) (text : String) : List Span :=
  let cs := text.toList
  ((f.matcher.matchesIn cs).filter (!·.isEmpty)).map (f.spanOf cs)

namespace Context

/-- The context of a match, if a phrase matches a text somewhere. -/
def find? (id : Nat) (text : String) (f : Finder) : Option Context :=
  match f.spans text with
  | [] => none
  | spans => some (found id text spans)

/-- The context of a value; without a label its display form is the label. -/
def ofValue (id : Nat) (v : Value) (label : Option String) : Context :=
  value id v.display (label.getD v.display)

def id : Context → Nat
  | value id .. => id
  | found id .. => id

def content : Context → String
  | value _ s _ => s
  | found _ s _ => s

def isMatched : Context → Bool
  | value .. => false
  | found .. => true

def spans : Context → List Span
  | value .. => []
  | found _ _ spans => spans

def matchCount (c : Context) : Nat := c.spans.length

/-- The length of the whole value in code points. -/
def valueLength (c : Context) : Nat := c.content.length

/-- What the value looks like. -/
def kind (c : Context) : Kind := Kind.infer c.content

/-- Equality of content: both values or both matches, of one text and with the same spans. -/
def isEqual : Context → Context → Bool
  | value _ a _, value _ b _ => a == b
  | found _ a m, found _ b n => a == b && m == n
  | _, _ => false

def crop (c : Context) : Crop :=
  let first := (c.spans.head?.map (·.position)).getD 0
  let start := first - cropLead
  ⟨start, min (start + maxLength) c.valueLength⟩

def window (c : Context) (crop : Crop) : String :=
  String.ofList (Regex.slice c.content.toList crop.start crop.stop)

end Context

end TableSearch
