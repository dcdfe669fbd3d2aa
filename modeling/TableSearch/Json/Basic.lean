/-!
# JSON trees

A JSON text as a tree. A record keeps its fields in the order they were written, repeated names
included; a number keeps whether it was written as an integer.
-/
namespace TableSearch

/-- A JSON value. -/
inductive Json where
  | null
  | bool (b : Bool)
  | integer (n : Int)
  /-- The number `digits * 10 ^ exponent`, negated if `negative`. -/
  | decimal (negative : Bool) (digits : Nat) (exponent : Int)
  | text (s : String)
  | list (items : List Json)
  | record (fields : List (String × Json))
  deriving Inhabited, Repr

namespace Json

/-- The value of the last field of that name, if this is a record with one. -/
def field? (name : String) : Json → Option Json
  | record fields => (fields.reverse.find? (·.1 == name)).map (·.2)
  | _ => none

end Json

end TableSearch
