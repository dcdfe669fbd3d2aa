import TableSearch.Mutation
import TableSearch.Page
import TableSearch.Registry

/-!
# Printed reports

The texts that commands print: listings in columns of fixed width, hits with their matches, and
suggestions one to a line. A cell that is wider than its column is printed whole.
-/
namespace TableSearch.Report

def pad (width : Nat) (s : String) : String :=
  s ++ String.ofList (List.replicate (width - s.length) ' ')

/-- Lines, each ended. -/
def lines (l : List String) : String := String.join (l.map (· ++ "\n"))

/-- Padded cells with a space after each, and a last cell as it is. -/
def tableLine (cells : List (Nat × String)) (last : String) : String :=
  String.join (cells.map fun (width, s) => pad width s ++ " ") ++ last

def sources (entries : List Entry) : List String :=
  if entries.isEmpty then ["No sources configured."]
  else
    tableLine [(24, "SOURCE"), (24, "LABEL"), (8, "TYPE")] "CLASS" ::
      entries.map fun e => tableLine [(24, e.name), (24, e.label), (8, e.kind.name)] e.className

/-- The values of options, or how they are found. -/
def options : Option ColumnOptions → String
  | none => ""
  | some .suggested => "api"
  | some (.listed l) => ",".intercalate (l.map (·.value))

def truth (b : Bool) : String := if b then "true" else "false"

def schema (s : Schema) : List String :=
  ("--- " ++ s.name ++ " (" ++ s.table ++ ") ---") ::
  tableLine [(20, "COLUMN"), (8, "TYPE"), (20, "TITLE"), (6, "MODIFY"), (6, "GLOBAL"),
    (7, "PRELOAD")] "OPTIONS" ::
  s.columns.map fun c =>
    tableLine [(20, c.id), (8, c.type.name), (20, c.title), (6, truth c.modify),
      (6, truth c.global), (7, truth c.preload)] (options c.options)

def quoted (s : String) : String := "\"" ++ s ++ "\""

def span (s : Span) : String :=
  "      @" ++ Text.writeNat s.position ++ " " ++ quoted s.text ++
    match s.replacement with
    | some r => " -> " ++ quoted r
    | none => ""

def oneLine (s : String) : String := s.map fun c => if c = '\n' then ' ' else c

def context (column : String) : Context → List String
  | .value _ content label =>
    ["    " ++ column ++ ": " ++ content ++ if label = content then "" else " (" ++ label ++ ")"]
  | .found _ content spans =>
    ("    " ++ column ++ ": " ++ quoted (oneLine content) ++ " (" ++ Text.writeNat spans.length ++
      " matches)") :: spans.map span

def hit (position : Nat) (h : Hit) : List String :=
  (Text.writeNat position ++ ". [" ++ h.source ++ " #" ++ Text.writeInt64 h.rowId ++ "] " ++
    h.title) :: (h.columns.flatMap fun (column, c) => context column c) ++ [""]

def hits : Nat → List Hit → List String
  | _, [] => []
  | position, h :: rest => hit position h ++ hits (position + 1) rest

/-- The lines of a page; `headed` puts the name of its source before them. -/
def page (headed : Bool) (p : Page) : List String :=
  (if headed then ["== " ++ p.source ++ " =="] else []) ++
  (if p.hits.isEmpty then ["No results."] else []) ++
  hits 1 p.hits ++
  ["scanned: " ++ Text.writeNat p.scanned] ++
  (p.next.map fun n => "next offset: " ++ Text.writeInt64 n).toList

/-- The lines of pages; several pages have headings. -/
def pages (ps : List Page) : List String := ps.flatMap (page (ps.length > 1))

def suggestions (l : List Suggestion) : List String :=
  if l.isEmpty then ["No suggestions."] else l.map fun s => s.key.display ++ "\t" ++ s.label

def preloaded (l : List PreloadItem) : List String :=
  if l.isEmpty then ["Nothing to preload."] else l.map fun i => i.value ++ "\t" ++ i.label

def rowName (source : String) (rowId : Int64) : String :=
  source ++ " #" ++ Text.writeInt64 rowId

def done (what : String) (source : String) (rowId : Int64) (gate : Gate) : String :=
  what ++ " " ++ rowName source rowId ++ " (" ++ mode gate ++ ")"
where
  /-- Whether changes were written, in words. -/
  mode : Gate → String
    | .allowed => "applied"
    | .denied => "dry run"

def replaced (source : String) (rowId : Int64) (gate : Gate) (changes : Changes) : List String :=
  if changes.isEmpty then ["No matches in " ++ rowName source rowId ++ "."]
  else
    (done "Replaced in" source rowId gate ++ ":") ::
      changes.toList.map fun (column, v) => "    " ++ column ++ ": " ++ v.display

end TableSearch.Report
