import TableSearch.Json.Record
import TableSearch.Phrase

/-!
# Phrases as JSON

The two flags form a record of their own; an absent replacement is not written.
-/
namespace TableSearch

def Phrase.toJson (p : Phrase) : Json :=
  .record ([("pattern", .text p.pattern),
    ("flags", .record [("regex", .bool p.regex), ("case_insensitive", .bool p.ignoreCase)])] ++
    (p.replacement.map fun s => ("replacement", .text s)).toList)

/-- The flags that a JSON tree denotes: regular expression, and either case. -/
def Phrase.flags? (json : Json) : Option (Bool × Bool) := do
  match ← json.slots? ["regex", "case_insensitive"] with
  | [regex, ignoreCase] =>
    return (← Json.defaulted? false Json.bool? regex, ← Json.defaulted? false Json.bool? ignoreCase)
  | _ => none

def Phrase.ofJson? (json : Json) : Option Phrase := do
  match ← json.slots? ["pattern", "flags", "replacement"] with
  | [pattern, flags, replacement] =>
    let pattern ← Json.required? Json.text? pattern
    let (regex, ignoreCase) ← Json.defaulted? (false, false) flags? flags
    let replacement ← Json.defaulted? none (Json.nullable? Json.text?) replacement
    return { pattern, regex, ignoreCase, replacement }
  | _ => none

end TableSearch
