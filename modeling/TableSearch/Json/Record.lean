import TableSearch.Json.Basic
import TableSearch.Text.Integer
import TableSearch.Dict

/-!
# Typed values out of JSON trees

A record type is written as an object, or as the array of its fields in declaration order whose
last fields may be left out. Unknown fields are ignored, a declared field given twice is refused.
-/
namespace TableSearch.Json

def bool? : Json → Option Bool
  | bool b => some b
  | _ => none

def text? : Json → Option String
  | text s => some s
  | _ => none

/-- A JSON integer that fits 64 bits. -/
def int64? : Json → Option Int64
  | integer n => Text.toInt64? n
  | _ => none

/-- A list whose items are all read by `read`. -/
def listOf? (read : Json → Option α) : Json → Option (List α)
  | list items => items.mapM read
  | _ => none

/-- An object as a dictionary; of two fields with one name the later stays. -/
def dictOf? (read : Json → Option α) : Json → Option (Dict String α)
  | record fields => (fields.mapM fun f => (read f.2).map fun a => (f.1, a)).map Dict.ofList
  | _ => none

/-- `null`, or what `read` reads. -/
def nullable? (read : Json → Option α) : Json → Option (Option α)
  | null => some none
  | v => (read v).map some

/-- One of finitely many words, written as a string or as the name of a lone null field. -/
def word? (words : List (String × α)) : Json → Option α
  | text s => words.lookup s
  | record [(s, null)] => words.lookup s
  | _ => none

/-- The value of each declared field, where one is given. -/
def slots? (names : List String) : Json → Option (List (Option Json))
  | list items =>
    if items.length ≤ names.length then
      some (items.map some ++ List.replicate (names.length - items.length) none)
    else none
  | record fields =>
    if names.all fun name => (fields.filter (·.1 == name)).length ≤ 1 then
      some (names.map fun name => fields.lookup name)
    else none
  | _ => none

def required? (read : Json → Option α) (slot : Option Json) : Option α := slot.bind read

def defaulted? (default : α) (read : Json → Option α) : Option Json → Option α
  | none => some default
  | some v => read v

def ofInt64 (n : Int64) : Json := integer n.toInt

def ofNat (n : Nat) : Json := integer n

/-- A present value as `write` writes it, an absent one as `null`. -/
def ofOption (write : α → Json) : Option α → Json
  | none => null
  | some a => write a

def ofDict (write : α → Json) (d : Dict String α) : Json :=
  record (d.toList.map fun (name, a) => (name, write a))

end TableSearch.Json
