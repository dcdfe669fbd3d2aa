import TableSearch.Json.Basic
import TableSearch.Text.Integer

/-!
# Writing JSON text

A tree is written on one line without blanks. Quotes, backslashes and control characters of a
text are escaped; every other character stands for itself.
-/
namespace TableSearch.Json

def hexDigit (n : Nat) : Char := Nat.digitChar n

def escape (c : Char) : List Char :=
  if c == '"' then ['\\', '"']
  else if c == '\\' then ['\\', '\\']
  else if c == '\n' then ['\\', 'n']
  else if c == '\r' then ['\\', 'r']
  else if c == '\t' then ['\\', 't']
  else if c == '\x08' then ['\\', 'b']
  else if c == '\x0c' then ['\\', 'f']
  else if c.toNat < 0x20 then
    ['\\', 'u', '0', '0', hexDigit (c.toNat / 16), hexDigit (c.toNat % 16)]
  else [c]

def quote (s : String) : String := String.ofList ('"' :: (s.toList.flatMap escape ++ ['"']))

mutual

def write : Json → String
  | null => "null"
  | bool true => "true"
  | bool false => "false"
  | integer n => Text.writeInteger n
  | decimal negative digits exponent =>
    (if negative then "-" else "") ++ Text.writeNat digits ++ "e" ++ Text.writeInteger exponent
  | text s => quote s
  | list items => "[" ++ ",".intercalate (writeItems items) ++ "]"
  | record fields => "\x7b" ++ ",".intercalate (writeFields fields) ++ "\x7d"

def writeItems : List Json → List String
  | [] => []
  | item :: items => write item :: writeItems items

def writeFields : List (String × Json) → List String
  | [] => []
  | (name, value) :: fields => (quote name ++ ":" ++ write value) :: writeFields fields

end

end TableSearch.Json
