import TableSearch.Regex.Flags
import TableSearch.Schema

/-!
# Filters

A filter names a column, a logic and the values it is applied to. This module holds what a caller
writes and what can be wrong with it; `Filter.compile` turns it into a condition.
-/
namespace TableSearch

/-- How the values of a filter are applied to its column. -/
inductive Logic where
  | includes
  | excludes
  | equals
  | differs
  | greater
  | less
  | range
  | contains
  | lacks
  | begins
  | ends
  | regex
  deriving DecidableEq, Repr, Inhabited

namespace Logic

def name : Logic → String
  | includes => "include"
  | excludes => "exclude"
  | equals => "equals"
  | differs => "notequals"
  | greater => "greater"
  | less => "less"
  | range => "range"
  | contains => "contains"
  | lacks => "notcontains"
  | begins => "begins"
  | ends => "ends"
  | regex => "regex"

def all : List Logic :=
  [includes, excludes, equals, differs, greater, less, range, contains, lacks, begins, ends, regex]

/-- Whether the values are a set that the cell is looked up in. -/
def isMembership : Logic → Bool
  | includes | excludes => true
  | _ => false

/-- Whether a logic applies to columns of a type. -/
def supports : Logic → ColumnType → Bool
  | includes, type | excludes, type => type != .date
  | equals, _ | differs, _ => true
  | greater, type | less, type | range, type => type == .integer || type == .date
  | contains, type | lacks, type | begins, type | ends, type => type == .string || type == .member
  | regex, type => type == .string

end Logic

/-- How many values a logic takes. -/
inductive Arity where
  | atLeastOne
  | one
  | two
  deriving DecidableEq, Repr, Inhabited

namespace Arity

def text : Arity → String
  | atLeastOne => "at least 1"
  | one => "exactly 1"
  | two => "exactly 2"

def allows : Arity → Nat → Bool
  | atLeastOne, n => n != 0
  | one, n => n == 1
  | two, n => n == 2

end Arity

def Logic.arity : Logic → Arity
  | includes | excludes => .atLeastOne
  | range => .two
  | _ => .one

/-- A typed predicate on one column, as a caller writes it. -/
structure Filter where
  column : String
  logic : Logic
  values : List Value := []
  deriving DecidableEq, Repr, Inhabited

/-- Why a text is no search pattern. -/
inductive PatternFault where
  | emptyPhrase
  | malformed (error : Regex.PatternError)
  deriving DecidableEq, Repr, Inhabited

/-- Why a filter or a phrase cannot be compiled or applied. -/
inductive FilterError where
  | unknownColumn (column : String)
  | unsupportedLogic (column : String) (logic : Logic) (type : ColumnType)
  | valueCount (column : String) (expected : Arity) (got : Nat)
  | incompatible (column : String) (value : String) (type : ColumnType)
  | invalidPattern (fault : PatternFault)
  | missingReplacement
  deriving DecidableEq, Repr, Inhabited

def FilterError.message : FilterError → String
  | unknownColumn column => "unknown column '" ++ column ++ "'"
  | unsupportedLogic column logic type =>
    "logic '" ++ logic.name ++ "' is not supported on " ++ type.title ++ " column '" ++ column ++
      "'"
  | valueCount column expected got =>
    "filter on '" ++ column ++ "' expects " ++ expected.text ++ " value(s), got " ++
      Text.writeNat got
  | incompatible column value type =>
    "value '" ++ value ++ "' is not compatible with " ++ type.title ++ " column '" ++ column ++ "'"
  | invalidPattern .emptyPhrase => "invalid pattern: empty search phrase"
  | invalidPattern (.malformed _) => "invalid pattern"
  | missingReplacement => "a replacement is required"

end TableSearch
