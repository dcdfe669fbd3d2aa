import TableSearch.Toml.Scalar
import TableSearch.Toml.Table
import TableSearch.Toml.Text

/-!
# Reading TOML documents

A document is read line by line into a tree: headers open tables, other lines put values into the
table that is open. Arrays may run over several lines, tables in braces may not.
-/
namespace TableSearch.Toml

/-- Drop a comment; `none` if it holds a forbidden character. -/
def skipComment? : List Char → Option (List Char)
  | '#' :: cs =>
    let comment := cs.takeWhile (!isForbidden ·)
    let rest := cs.drop comment.length
    if rest.isEmpty || (newline? rest).isSome then some rest else none
  | cs => some cs

/-- Drop blanks, comments and line ends. -/
def skipBetween? : Nat → List Char → Option (List Char)
  | 0, _ => none
  | fuel + 1, cs =>
    match skipLines cs with
    | '#' :: cs => do skipBetween? fuel (← skipComment? ('#' :: cs))
    | cs => some cs

/-- The rest after the end of a line, with blanks and a comment before it. -/
def endLine? (cs : List Char) : Option (List Char) := do
  let cs ← skipComment? (skipSpaces cs)
  if cs.isEmpty then some [] else newline? cs

/-- Arrays and tables in braces nest at most this deep. -/
def maxDepth : Nat := 80

mutual

/-- A value. `fuel` bounds the steps, `depth` the levels still open. -/
def value? (fuel depth : Nat) (cs : List Char) : Option (Json × List Char) :=
  match fuel with
  | 0 => none
  | fuel + 1 =>
    match cs with
    | '"' :: _ | '\'' :: _ => (string? cs).map fun (s, cs) => (.text s, cs)
    | '[' :: cs => if depth = 0 then none else items? fuel (depth - 1) cs []
    | '\x7b' :: cs =>
      if depth = 0 then none
      else
        match skipSpaces cs with
        | '\x7d' :: cs => some (.record [], cs)
        | cs => braces? fuel (depth - 1) cs .root
    | cs =>
      let token := scalarChars cs
      (scalar? token).map fun v => (v, cs.drop token.length)

/-- The rest of an array; `acc` holds the items read, last first. -/
def items? (fuel depth : Nat) (cs : List Char) (acc : List Json) : Option (Json × List Char) :=
  match fuel with
  | 0 => none
  | fuel + 1 =>
    match skipBetween? (cs.length + 1) cs with
    | none => none
    | some (']' :: cs) => some (.list acc.reverse, cs)
    | some cs =>
      match value? fuel depth cs with
      | none => none
      | some (item, cs) =>
        match skipBetween? (cs.length + 1) cs with
        | some (',' :: cs) => items? fuel depth cs (item :: acc)
        | some (']' :: cs) => some (.list (item :: acc).reverse, cs)
        | _ => none

/-- The rest of a table in braces, at least one entry; `t` holds those read. -/
def braces? (fuel depth : Nat) (cs : List Char) (t : Item) : Option (Json × List Char) :=
  match fuel with
  | 0 => none
  | fuel + 1 =>
    match key? (cs.length + 1) cs with
    | some (key, '=' :: cs) =>
      match value? fuel depth (skipSpaces cs) with
      | none => none
      | some (item, cs) =>
        match t.assign? key item, skipSpaces cs with
        | some t, ',' :: cs => braces? fuel depth cs t
        | some t, '\x7d' :: cs => some (t.toJson, cs)
        | _, _ => none
    | _ => none

end

/-- A document that is being read: its tables, and the path of the one that is open. -/
structure Document where
  tables : Item := .root
  path : List String := []
  deriving Inhabited

def Document.header? (repeated : Bool) (key : List String) (d : Document) : Option Document :=
  (d.tables.openTable? repeated key).map fun tables => ⟨tables, key⟩

def Document.assign? (key : List String) (value : Json) (d : Document) : Option Document :=
  (d.tables.update? false (Item.assign? key value) d.path).map fun tables => { d with tables }

/-- One line that is neither blank nor a comment, without its end. -/
def line? (d : Document) : List Char → Option (Document × List Char)
  | '[' :: '[' :: cs => do
    match ← key? (cs.length + 1) cs with
    | (key, ']' :: ']' :: cs) => return (← d.header? true key, cs)
    | _ => none
  | '[' :: cs => do
    match ← key? (cs.length + 1) cs with
    | (key, ']' :: cs) => return (← d.header? false key, cs)
    | _ => none
  | cs => do
    match ← key? (cs.length + 1) cs with
    | (key, '=' :: cs) =>
      let (value, cs) ← value? (2 * cs.length + 2) maxDepth (skipSpaces cs)
      return (← d.assign? key value, cs)
    | _ => none

def lines? : Nat → Document → List Char → Option Document
  | 0, _, _ => none
  | fuel + 1, d, cs => do
    match ← skipBetween? (cs.length + 1) cs with
    | [] => return d
    | cs =>
      let (d, cs) ← line? d cs
      lines? fuel d (← endLine? cs)

/-- The tree of a TOML document; a byte order mark at its beginning is dropped. -/
def read? (s : String) : Option Json :=
  let cs := match s.toList with
    | '\ufeff' :: cs => cs
    | cs => cs
  (lines? (cs.length + 1) {} cs).map fun d => d.tables.toJson

end TableSearch.Toml
