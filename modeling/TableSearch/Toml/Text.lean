import TableSearch.Json.Reader

/-!
# Strings and keys of TOML

The four kinds of strings, and keys of one or more parts. The readers take the rest of the text
and give back what they leave of it. A line ends in `\n` or `\r\n`, in a string always read as
`\n`.
-/
namespace TableSearch.Toml

def isSpace (c : Char) : Bool := c == ' ' || c == '\t'

def skipSpaces (cs : List Char) : List Char := cs.dropWhile isSpace

/-- The characters that neither strings nor comments may hold, line ends apart. -/
def isForbidden (c : Char) : Bool := (c.toNat < 0x20 && c != '\t') || c.toNat == 0x7F

def newline? : List Char → Option (List Char)
  | '\n' :: cs => some cs
  | '\r' :: '\n' :: cs => some cs
  | _ => none

def skipLines : List Char → List Char
  | '\r' :: '\n' :: cs => skipLines cs
  | c :: cs => if isSpace c || c == '\n' then skipLines cs else c :: cs
  | [] => []

def codePoint? (count : Nat) (cs : List Char) : Option (Char × List Char) := do
  let digits := cs.take count
  if digits.length < count then none
  let n ← Json.Reader.hexNumber? digits
  if n < 0xD800 || (0xDFFF < n && n < 0x110000) then some (Char.ofNat n, cs.drop count) else none

/-- The character that an escape stands for, the text going on after the backslash. -/
def escape? : List Char → Option (Char × List Char)
  | 'b' :: cs => some ('\x08', cs)
  | 't' :: cs => some ('\t', cs)
  | 'n' :: cs => some ('\n', cs)
  | 'f' :: cs => some ('\x0c', cs)
  | 'r' :: cs => some ('\r', cs)
  | '"' :: cs => some ('"', cs)
  | '\\' :: cs => some ('\\', cs)
  | 'u' :: cs => codePoint? 4 cs
  | 'U' :: cs => codePoint? 8 cs
  | _ => none

/-- What was read, last first, and the rest of the text. -/
abbrev Reading := Option (List Char × List Char)

/-- A string in double quotes, after the first. -/
def basic? : Nat → List Char → List Char → Reading
  | 0, _, _ => none
  | _, [], _ => none
  | _, '"' :: cs, acc => some (acc, cs)
  | fuel + 1, '\\' :: cs, acc => do
    let (c, cs) ← escape? cs
    basic? fuel cs (c :: acc)
  | fuel + 1, c :: cs, acc => if isForbidden c then none else basic? fuel cs (c :: acc)

/-- A string in single quotes, after the first: no escapes. -/
def literal? : List Char → List Char → Reading
  | [], _ => none
  | '\'' :: cs, acc => some (acc, cs)
  | c :: cs, acc => if isForbidden c then none else literal? cs (c :: acc)

/-- The end of a string in triple quotes, at a quote: up to two quotes may stand before the
closing three. `none` if the string goes on. -/
def closing? (quote : Char) (cs acc : List Char) : Option Reading :=
  let run := cs.takeWhile (· == quote)
  if run.length < 3 then none
  else if run.length > 5 then some none
  else some (some (List.replicate (run.length - 3) quote ++ acc, cs.drop run.length))

/-- A string in triple double quotes, after them. A backslash at the end of a line drops the blanks
and line ends that follow. -/
def longBasic? : Nat → List Char → List Char → Reading
  | 0, _, _ => none
  | _, [], _ => none
  | fuel + 1, '"' :: cs, acc =>
    match closing? '"' ('"' :: cs) acc with
    | some ending => ending
    | none => longBasic? fuel cs ('"' :: acc)
  | fuel + 1, '\\' :: cs, acc =>
    if (newline? (skipSpaces cs)).isSome then longBasic? fuel (skipLines cs) acc
    else do
      let (c, cs) ← escape? cs
      longBasic? fuel cs (c :: acc)
  | fuel + 1, c :: cs, acc =>
    match newline? (c :: cs) with
    | some cs => longBasic? fuel cs ('\n' :: acc)
    | none => if isForbidden c then none else longBasic? fuel cs (c :: acc)

/-- A string in triple single quotes, after them. -/
def longLiteral? : Nat → List Char → List Char → Reading
  | 0, _, _ => none
  | _, [], _ => none
  | fuel + 1, '\'' :: cs, acc =>
    match closing? '\'' ('\'' :: cs) acc with
    | some ending => ending
    | none => longLiteral? fuel cs ('\'' :: acc)
  | fuel + 1, c :: cs, acc =>
    match newline? (c :: cs) with
    | some cs => longLiteral? fuel cs ('\n' :: acc)
    | none => if isForbidden c then none else longLiteral? fuel cs (c :: acc)

def finish (r : Reading) : Option (String × List Char) :=
  r.map fun (acc, cs) => (String.ofList acc.reverse, cs)

/-- A string of any kind. A line end right after triple quotes is dropped. -/
def string? : List Char → Option (String × List Char)
  | '"' :: '"' :: '"' :: cs => finish (longBasic? (cs.length + 1) ((newline? cs).getD cs) [])
  | '"' :: cs => finish (basic? (cs.length + 1) cs [])
  | '\'' :: '\'' :: '\'' :: cs => finish (longLiteral? (cs.length + 1) ((newline? cs).getD cs) [])
  | '\'' :: cs => finish (literal? cs [])
  | _ => none

def isBare (c : Char) : Bool := c.isAlphanum || c == '_' || c == '-'

def keyPart? : List Char → Option (String × List Char)
  | '"' :: cs => finish (basic? (cs.length + 1) cs [])
  | '\'' :: cs => finish (literal? cs [])
  | cs =>
    let name := cs.takeWhile isBare
    if name.isEmpty then none else some (String.ofList name, cs.drop name.length)

/-- A key: parts with points between them, and blanks around those. -/
def key? : Nat → List Char → Option (List String × List Char)
  | 0, _ => none
  | fuel + 1, cs => do
    let (part, cs) ← keyPart? (skipSpaces cs)
    match skipSpaces cs with
    | '.' :: cs =>
      let (parts, cs) ← key? fuel cs
      return (part :: parts, cs)
    | cs => return ([part], cs)

end TableSearch.Toml
