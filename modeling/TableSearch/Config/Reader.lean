import TableSearch.Config.Json
import TableSearch.Toml.Reader

/-!
# Reading configurations
-/
namespace TableSearch

/-- The configuration that a TOML text denotes, if it is valid. -/
def Config.read (text : String) : Except ConfigError Config :=
  match (Toml.read? text).bind Config.ofJson? with
  | none => .error .malformed
  | some c =>
    match c.error? with
    | some e => .error e
    | none => .ok c

end TableSearch
