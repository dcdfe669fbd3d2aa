import TableSearch.Context.Json
import TableSearch.Page

/-!
# Pages as JSON
-/
namespace TableSearch

/-- A hit as JSON: the contexts by column, in the order of the schema. -/
def Hit.toJson (h : Hit) : Json :=
  .record [("row_id", .ofInt64 h.rowId), ("title", .text h.title), ("source", .text h.source),
    ("schema_name", .text h.schemaName), ("match_count", .ofNat h.matchCount),
    ("columns", .record (h.columns.map fun (column, context) => (column, context.toJson)))]

def Page.toJson (p : Page) : Json :=
  .record [("source", .text p.source), ("results", .list (p.hits.map Hit.toJson)),
    ("scanned", .ofNat p.scanned), ("next_offset", .ofOption .ofInt64 p.next)]

end TableSearch
