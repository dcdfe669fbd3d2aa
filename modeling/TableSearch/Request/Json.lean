import TableSearch.Filter.Json
import TableSearch.Phrase.Json
import TableSearch.Request

/-!
# Search requests as JSON

An absent phrase and an absent limit are not written; filters and offset always are.
-/
namespace TableSearch

def Request.toJson (r : Request) : Json :=
  .record ((r.phrase.map fun p => ("phrase", p.toJson)).toList ++
    [("filters", .list (r.filters.map Filter.toJson))] ++
    (r.limit.map fun n => ("limit", Json.ofInt64 n)).toList ++
    [("offset", Json.ofInt64 r.offset)])

def Request.ofJson? (json : Json) : Option Request := do
  match ← json.slots? ["phrase", "filters", "limit", "offset"] with
  | [phrase, filters, limit, offset] =>
    return { phrase := ← Json.defaulted? none (Json.nullable? Phrase.ofJson?) phrase
             filters := ← Json.defaulted? [] (Json.listOf? Filter.ofJson?) filters
             limit := ← Json.defaulted? none (Json.nullable? Json.int64?) limit
             offset := ← Json.defaulted? 0 Json.int64? offset }
  | _ => none

end TableSearch
