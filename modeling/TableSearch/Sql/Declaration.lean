import TableSearch.Sql.Cell
import TableSearch.Text.Ascii

/-!
# Column declarations

A column is declared by a type and constraints. The type decides what the column prefers its cells
to be; an integer primary key is the number of the row itself.
-/
namespace TableSearch.Sql

/-- A declared column. -/
structure ColumnDef where
  name : String
  affinity : Affinity := .blob
  /-- Whether the column is the number of the row. -/
  isKey : Bool := false
  notNull : Bool := false
  unique : Bool := false
  default : Cell := .null
  deriving DecidableEq, Repr, Inhabited

def mentions (text : List Char) (word : String) : Bool := Text.contains word.toList text

/-- What a type prefers, by the words in its name: the first that occurs decides. -/
def Affinity.ofType (type : List Char) : Affinity :=
  if mentions type "INT" then .integer
  else if mentions type "CHAR" || mentions type "CLOB" || mentions type "TEXT" then .text
  else if type.isEmpty || mentions type "BLOB" then .blob
  else if mentions type "REAL" || mentions type "FLOA" || mentions type "DOUB" then .real
  else .numeric

/-- A word of a declaration: a name, a number or a sign, or a quoted text. -/
inductive Token where
  | word (cs : List Char)
  | quoted (cs : List Char)
  deriving DecidableEq, Repr, Inhabited

/-- The words of a declaration. -/
def tokens : Nat → List Char → List Token
  | 0, _ => []
  | _, [] => []
  | fuel + 1, '\'' :: cs =>
    let inside := cs.takeWhile (· != '\'')
    match cs.drop inside.length with
    | '\'' :: '\'' :: rest =>
      match tokens fuel ('\'' :: rest) with
      | .quoted more :: others => .quoted (inside ++ '\'' :: more) :: others
      | others => .quoted inside :: others
    | rest => .quoted inside :: tokens fuel (rest.drop 1)
  | fuel + 1, c :: cs =>
    if Cell.isSpace c || c == '(' || c == ')' || c == ',' then tokens fuel cs
    else
      let word := (c :: cs).takeWhile fun c =>
        !(Cell.isSpace c || c == '(' || c == ')' || c == ',' || c == '\'')
      .word word :: tokens fuel (cs.drop (word.length - 1))

def capitals (cs : List Char) : String := String.ofList (cs.map Char.toUpper)

def constraintWords : List String :=
  ["CONSTRAINT", "PRIMARY", "NOT", "NULL", "UNIQUE", "CHECK", "DEFAULT", "COLLATE", "REFERENCES",
    "GENERATED", "AS"]

def typeWords : List Token → List String
  | .word w :: rest =>
    if constraintWords.contains (capitals w) then [] else capitals w :: typeWords rest
  | _ => []

def defaultCell : Token → Cell
  | .quoted cs => .ofString (String.ofList cs)
  | .word cs =>
    if capitals cs == "NULL" then .null
    else (Cell.number? (Text.Utf8.encode (String.ofList cs))).getD (.ofString (String.ofList cs))

def ColumnDef.constrain (type : String) : ColumnDef → List Token → ColumnDef
  | c, [] => c
  | c, [_] => c
  | c, .word a :: .word b :: rest =>
    let c :=
      match capitals a, capitals b with
      | "PRIMARY", "KEY" =>
        if type == "INTEGER" && rest.head? != some (.word "DESC".toList) then
          { c with isKey := true }
        else { c with unique := true }
      | "NOT", "NULL" => { c with notNull := true }
      | "DEFAULT", _ => { c with default := defaultCell (.word b) }
      | _, _ => c
    constrain type c (.word b :: rest)
  | c, .word a :: .quoted b :: rest =>
    let c := if capitals a == "DEFAULT" then { c with default := defaultCell (.quoted b) } else c
    constrain type c (.quoted b :: rest)
  | c, .quoted _ :: rest => constrain type c rest

def ColumnDef.ofDeclaration (name declaration : String) : ColumnDef :=
  let tokens := tokens (declaration.length + 1) declaration.toList
  let type := " ".intercalate (typeWords tokens)
  let unique := tokens.any fun t => match t with
    | .word w => capitals w == "UNIQUE"
    | .quoted _ => false
  let column := { name, affinity := .ofType type.toList, unique : ColumnDef }
  let column := column.constrain type tokens
  { column with default := column.affinity.store column.default }

end TableSearch.Sql
