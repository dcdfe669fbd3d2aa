import TableSearch.Context
import TableSearch.Json.Record

/-!
# Contexts as JSON

The displayed form of a context. Absent replacements and empty lists of groups are not written.
-/
namespace TableSearch

def Span.toJson (s : Span) : Json :=
  .record ([("pos_id", .ofNat s.position), ("length", .ofNat s.length), ("match", .text s.text)] ++
    (s.replacement.map fun r => ("replacement", .text r)).toList ++
    (if s.captures.isEmpty then [] else [("captures", .list (s.captures.map .text))]))

def Crop.toJson (c : Crop) : Json := .record [("start", .ofNat c.start), ("end", .ofNat c.stop)]

def Context.typeName : Context → String
  | value .. => "value"
  | found .. => "match"

/-- The displayed form of a context. -/
def Context.toJson (c : Context) : Json :=
  match c with
  | value id content label =>
    .record [("context_id", .ofNat id), ("type", .text c.typeName),
      ("value", .text (restrict content)), ("value_type", .text c.kind.name),
      ("value_label", .text (restrict label)), ("value_length", .ofNat c.valueLength)]
  | found id _ spans =>
    .record [("context_id", .ofNat id), ("type", .text c.typeName),
      ("value", .text (c.window c.crop)), ("crop", c.crop.toJson),
      ("value_type", .text c.kind.name), ("value_length", .ofNat c.valueLength),
      ("match_count", .ofNat c.matchCount), ("matches", .list (spans.map Span.toJson))]

end TableSearch
