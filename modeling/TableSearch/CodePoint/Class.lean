import TableSearch.CodePoint.Category
import TableSearch.CodePoint.Folding
import TableSearch.CodePoint.Property
import TableSearch.CodePoint.Script
import TableSearch.Text.Blank

/-!
# Named classes of code points

The classes that a pattern can name: unions of general categories, scripts and binary properties.
Names compare loosely, without letter case, blanks, underscores and hyphens.

There are tables of the general categories, the scripts and the more common binary properties; the
extensions of a script count as the script itself. A pattern that asks for another property, such as
the age of a code point or where graphemes, words and sentences break, is refused.
-/
namespace TableSearch.CodePoint

def unionAll (sets : List CodeSet) : CodeSet := CodeSet.ofRanges (sets.flatMap (·.ranges))

def letters : CodeSet := unionAll [Category.lu, Category.ll, Category.lt, Category.lm, Category.lo]

def marks : CodeSet := unionAll [Category.mn, Category.mc, Category.me]

def numbers : CodeSet := unionAll [Category.nd, Category.nl, Category.no]

def punctuation : CodeSet :=
  unionAll [Category.pc, Category.pd, Category.ps, Category.pe, Category.pi, Category.pf, Category.po]

def symbols : CodeSet := unionAll [Category.sm, Category.sc, Category.sk, Category.so]

def separators : CodeSet := unionAll [Category.zs, Category.zl, Category.zp]

/-- The code points with a category of their own. -/
def assigned : CodeSet :=
  unionAll [letters, marks, numbers, punctuation, symbols, separators, Category.cc, Category.cf,
    Category.co]

/-- The code points without a category of their own. -/
def unassigned : CodeSet := assigned.compl

/-- What is no letter, mark, number, punctuation, symbol or separator. -/
def other : CodeSet := unionAll [Category.cc, Category.cf, Category.co, unassigned]

def digits : CodeSet := Category.nd

def blanks : CodeSet := whiteSpace

/-- The characters of words: letters, marks, digits, connectors and joiners. -/
def wordCharacters : CodeSet :=
  unionAll [alphabetic, marks, Category.nd, Category.pc, joinControl]

/-- The general categories and their groups by their names. -/
def categories : List (List String × CodeSet) := [
  (["any"], CodeSet.all),
  (["ascii"], ⟨[(0, 0x7F)]⟩),
  (["assigned"], assigned),
  (["l", "letter"], letters),
  (["lc", "casedletter"], unionAll [Category.lu, Category.ll, Category.lt]),
  (["lu", "uppercaseletter"], Category.lu),
  (["ll", "lowercaseletter"], Category.ll),
  (["lt", "titlecaseletter"], Category.lt),
  (["lm", "modifierletter"], Category.lm),
  (["lo", "otherletter"], Category.lo),
  (["m", "mark", "combiningmark"], marks),
  (["mn", "nonspacingmark"], Category.mn),
  (["mc", "spacingmark"], Category.mc),
  (["me", "enclosingmark"], Category.me),
  (["n", "number"], numbers),
  (["nd", "decimalnumber", "digit"], Category.nd),
  (["nl", "letternumber"], Category.nl),
  (["no", "othernumber"], Category.no),
  (["p", "punctuation", "punct"], punctuation),
  (["pc", "connectorpunctuation"], Category.pc),
  (["pd", "dashpunctuation"], Category.pd),
  (["ps", "openpunctuation"], Category.ps),
  (["pe", "closepunctuation"], Category.pe),
  (["pi", "initialpunctuation"], Category.pi),
  (["pf", "finalpunctuation"], Category.pf),
  (["po", "otherpunctuation"], Category.po),
  (["s", "symbol"], symbols),
  (["sm", "mathsymbol"], Category.sm),
  (["sc", "currencysymbol"], Category.sc),
  (["sk", "modifiersymbol"], Category.sk),
  (["so", "othersymbol"], Category.so),
  (["z", "separator"], separators),
  (["zs", "spaceseparator"], Category.zs),
  (["zl", "lineseparator"], Category.zl),
  (["zp", "paragraphseparator"], Category.zp),
  (["c", "other"], other),
  (["cc", "control", "cntrl"], Category.cc),
  (["cf", "format"], Category.cf),
  (["cn", "unassigned"], unassigned),
  (["co", "privateuse"], Category.co)]

/-- A name in loose form. A leading `is` is dropped, except in `isc`. -/
def looseName (name : List Char) : String :=
  let kept := (name.filter fun c =>
    c.toNat < 0x80 && c != '_' && c != '-' && !c.isWhitespace).map Char.toLower
  match kept with
  | 'i' :: 's' :: rest => if rest == ['c'] then "isc" else String.ofList rest
  | kept => String.ofList kept

def lookup? (table : List (List String × α)) (name : String) : Option α :=
  (table.find? (·.1.contains name)).map (·.2)

def script? (name : String) : Option CodeSet := (lookup? scripts name).map CodeSet.ofText

/-- The class of a lone name: a property, a category or a script, the first that has it. -/
def named? (name : List Char) : Option CodeSet :=
  let name := looseName name
  lookup? properties name <|> lookup? categories name <|> script? name

/-- The class of a property with a value: a general category or a script. -/
def valued? (property value : List Char) : Option CodeSet :=
  let property := looseName property
  let value := looseName value
  if property == "gc" || property == "generalcategory" then lookup? categories value
  else if property == "sc" || property == "script" || property == "scx" ||
      property == "scriptextensions" then script? value
  else none

end TableSearch.CodePoint
