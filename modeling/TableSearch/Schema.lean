import TableSearch.Value

/-!
# Schemas

A schema describes the columns of a table: their types, titles, the labelled options of their
values, and whether they may be changed and are searched. A valid schema has columns, no two of
one identifier, and options for every column whose values are members of a set.
-/
namespace TableSearch

/-- The type of a column's values. -/
inductive ColumnType where
  | string
  | integer
  | date
  /-- Values out of a finite set of labelled options. -/
  | member
  deriving DecidableEq, Repr, Inhabited

namespace ColumnType

def name : ColumnType → String
  | string => "string"
  | integer => "integer"
  | date => "date"
  | member => "member"

def title : ColumnType → String
  | string => "String"
  | integer => "Integer"
  | date => "Date"
  | member => "Member"

end ColumnType

/-- A value with the label that an operator sees. -/
structure ColumnOption where
  value : String
  label : String
  deriving DecidableEq, Repr, Inhabited

/-- Where the options of a column come from. -/
inductive ColumnOptions where
  | listed (options : List ColumnOption)
  /-- The caller asks for suggestions. -/
  | suggested
  deriving DecidableEq, Repr, Inhabited

/-- A column of a schema. -/
structure Column where
  id : String
  type : ColumnType
  title : String
  /-- Whether saves may change the column. -/
  modify : Bool := true
  options : Option ColumnOptions := none
  /-- Whether phrases are searched in the column. -/
  global : Bool := false
  /-- Whether filter values are resolved to labels before display. -/
  preload : Bool := false
  deriving DecidableEq, Repr, Inhabited

namespace Column

def optionLabel? (c : Column) (value : String) : Option String :=
  match c.options with
  | some (.listed options) => (options.find? (·.value == value)).map (·.label)
  | _ => none

/-- The label of a value among the listed options, or what is displayed for it. -/
def staticLabel (c : Column) (v : Value) : String := (c.optionLabel? v.display).getD v.display

end Column

/-- The description of a table. -/
structure Schema where
  name : String
  table : String
  columns : List Column
  deriving DecidableEq, Repr, Inhabited

/-- What is wrong with a schema. -/
inductive SchemaError where
  | duplicateColumn (column : String)
  | memberWithoutOptions (column : String)
  | empty (schema : String)
  deriving DecidableEq, Repr, Inhabited

def SchemaError.message : SchemaError → String
  | duplicateColumn column => "duplicate column '" ++ column ++ "' in schema"
  | memberWithoutOptions column => "member column '" ++ column ++ "' has no options"
  | empty schema => "schema '" ++ schema ++ "' has no columns"

namespace Schema

def column? (s : Schema) (id : String) : Option Column := s.columns.find? (·.id == id)

def globalColumns (s : Schema) : List Column := s.columns.filter (·.global)

def columnIds (s : Schema) : List String := s.columns.map (·.id)

/-- The first thing wrong with columns, the identifiers in `seen` being taken. -/
def columnError? (seen : List String) : List Column → Option SchemaError
  | [] => none
  | c :: rest =>
    if seen.contains c.id then some (.duplicateColumn c.id)
    else if c.type = .member && c.options.isNone then some (.memberWithoutOptions c.id)
    else columnError? (c.id :: seen) rest

def error? (s : Schema) : Option SchemaError :=
  if s.columns.isEmpty then some (.empty s.name) else columnError? [] s.columns

end Schema

end TableSearch
