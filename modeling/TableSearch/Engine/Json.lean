import TableSearch.Engine
import TableSearch.Json.Record

/-!
# Listings and errors of the engine as JSON
-/
namespace TableSearch

def Entry.toJson (e : Entry) : Json :=
  .record [("name", .text e.name), ("label", .text e.label), ("class", .text e.className),
    ("type", .text e.kind.name)]

def EngineError.toJson (e : EngineError) : Json :=
  .record ([("error_code", .text e.code), ("message", .text e.message)] ++
    (e.status?.map fun n => ("http_status", Json.ofNat n)).toList)

end TableSearch
