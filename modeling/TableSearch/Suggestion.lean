import TableSearch.Value.Json

/-!
# Suggestions and labelled keys

What a store offers while a caller types, and the labels of the keys that a filter holds.
-/
namespace TableSearch

/-- A key with the label that was matched. -/
structure Suggestion where
  key : Value
  label : String
  deriving DecidableEq, Repr, Inhabited

/-- A key of a filter with its label. The value names column and key. -/
structure PreloadItem where
  label : String
  value : String
  deriving DecidableEq, Repr, Inhabited

def PreloadItem.of (label column : String) (key : Value) : PreloadItem :=
  ⟨label, column ++ "_" ++ key.display⟩

def Suggestion.toJson (s : Suggestion) : Json :=
  .record [("id", s.key.toJson), ("value", .text s.label)]

def PreloadItem.toJson (i : PreloadItem) : Json :=
  .record [("label", .text i.label), ("value", .text i.value)]

end TableSearch
