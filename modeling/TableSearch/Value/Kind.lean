import TableSearch.Calendar.Reading
import TableSearch.Url.Web
import TableSearch.Value

/-!
# Kinds of displayed values

What a displayed value looks like to an operator: nothing, a number, a date, an address, a JSON
structure or plain text. The first kind in this order that fits is the kind of the value.
-/
namespace TableSearch

/-- What a displayed value looks like. -/
inductive Kind where
  | text
  | url
  | number
  | date
  | empty
  | other
  deriving DecidableEq, Repr, Inhabited

namespace Kind

def name : Kind → String
  | text => "text"
  | url => "url"
  | number => "number"
  | date => "date"
  | empty => "empty"
  | other => "other"

def isDigits (cs : List Char) : Bool := !cs.isEmpty && cs.all Char.isDigit

/-- An optional sign, digits, and optionally a point and digits. -/
def isNumber (cs : List Char) : Bool :=
  let unsigned := match cs with
    | '+' :: cs => cs
    | '-' :: cs => cs
    | cs => cs
  match unsigned.dropWhile (· != '.') with
  | '.' :: fraction => isDigits (unsigned.takeWhile (· != '.')) && isDigits fraction
  | _ => isDigits unsigned

/-- A path without blanks, or a web address. -/
def isUrl (cs : List Char) : Bool :=
  match cs with
  | '/' :: _ => !cs.any Text.isBlank
  | cs => Url.isWebAddress cs

def isStructure (cs : List Char) : Bool :=
  let bounds := (cs.head?, cs.getLast?)
  (bounds == (some '\x7b', some '\x7d') || bounds == (some '[', some ']')) &&
    (Json.read? (String.ofList cs)).isSome

/-- The kind of a text. -/
def infer (s : String) : Kind :=
  let cs := Text.trimList s.toList
  if cs.isEmpty then empty
  else if isNumber cs then number
  else if (Calendar.readDateTime? s).isSome then date
  else if isUrl cs then url
  else if isStructure cs then other
  else text

end Kind

end TableSearch
