import TableSearch.Json.Basic

/-!
# Tables of a TOML document

A document is built by putting entries into tables. Every table is defined once: a header may
complete a table that only longer headers have named, and dotted keys may extend a table that only
dotted keys have made. Values, tables in braces and arrays in brackets are closed.
-/
namespace TableSearch.Toml

/-- What a key stands for. -/
inductive Item where
  | leaf (value : Json)
  /-- A table; it is implicit until a header defines it, and dotted if dotted keys made it. -/
  | table (implicit dotted : Bool) (entries : List (String × Item))
  /-- The tables that a repeated header made, the last first. -/
  | array (tables : List Item)
  deriving Inhabited

namespace Item

def root : Item := .table false false []

/-- Replace the item of a key, or add it at the end. -/
def set (key : String) (item : Item) : List (String × Item) → List (String × Item)
  | [] => [(key, item)]
  | (k, i) :: rest => if k == key then (k, item) :: rest else (k, i) :: set key item rest

/-- Change the table at a path. Tables on the way that are missing are made; of an array of tables
the last is taken. Dotted keys do not enter a table that is defined. -/
def update? (dotted : Bool) (f : Item → Option Item) : List String → Item → Option Item
  | [], t => f t
  | key :: path, .table implicit wasDotted entries =>
    let put (item : Item) : Item := .table implicit wasDotted (set key item entries)
    match entries.lookup key with
    | none => (update? dotted f path (.table true dotted [])).map put
    | some (.array (t :: ts)) => (update? dotted f path t).map fun t => put (.array (t :: ts))
    | some (.table i d e) =>
      if dotted && !i then none else (update? dotted f path (.table i d e)).map put
    | some _ => none
  | _, _ => none

/-- Add an entry to a table that has none for the key; `nested` says that dotted keys led to the
table, which then is one that they made. -/
def add? (nested : Bool) (key : String) (value : Json) : Item → Option Item
  | .table implicit dotted entries =>
    if dotted != nested || (entries.lookup key).isSome then none
    else some (.table implicit dotted (entries ++ [(key, .leaf value)]))
  | _ => none

def assign? (key : List String) (value : Json) (t : Item) : Option Item := do
  let last ← key.getLast?
  let path := key.dropLast
  update? true (add? (!path.isEmpty) last value) path t

def define? (key : String) : Item → Option Item
  | .table implicit dotted entries =>
    match entries.lookup key with
    | none => some (.table implicit dotted (entries ++ [(key, .table false false [])]))
    | some (.table true false e) =>
      some (.table implicit dotted (set key (.table false false e) entries))
    | some _ => none
  | _ => none

/-- Begin another table of a repeated header. -/
def append? (key : String) : Item → Option Item
  | .table implicit dotted entries =>
    match entries.lookup key with
    | none => some (.table implicit dotted (entries ++ [(key, .array [root])]))
    | some (.array ts) => some (.table implicit dotted (set key (.array (root :: ts)) entries))
    | some _ => none
  | _ => none

def openTable? (repeated : Bool) (key : List String) (t : Item) : Option Item := do
  let last ← key.getLast?
  update? false (if repeated then append? last else define? last) key.dropLast t

mutual

def toJson : Item → Json
  | leaf value => value
  | table _ _ entries => .record (entriesToJson entries)
  | array tables => .list (itemsToJson tables).reverse

def entriesToJson : List (String × Item) → List (String × Json)
  | [] => []
  | (key, item) :: rest => (key, toJson item) :: entriesToJson rest

def itemsToJson : List Item → List Json
  | [] => []
  | item :: rest => toJson item :: itemsToJson rest

end

end Item

end TableSearch.Toml
