import TableSearch.Engine.Json
import TableSearch.Http.Route
import TableSearch.Page.Json
import TableSearch.Request.Json
import TableSearch.Schema.Json

/-!
# Handling requests

Every resource decodes its path, query and body, calls the engine and encodes the answer. A request
that cannot be decoded is answered before the engine is asked; an error of the engine is answered
with its status, 500 if it names none.
-/
namespace TableSearch.Http

def version : String := "0.3.0"

def ok (body : Json) : Response := ⟨200, some body⟩

def failed (e : EngineError) : Response := ⟨e.status?.getD 500, some e.toJson⟩

def rowMissing (source : String) (rowId : Int64) : Response :=
  ⟨404, some (.record [("error_code", .text "searchregex_not_found"),
    ("message", .text (source ++ " #" ++ Text.writeInt64 rowId ++ " not found")),
    ("http_status", .integer 404)])⟩

def success (changes : Option Changes) : Json :=
  .record (("success", .bool true) ::
    (changes.map fun c => ("changes", Cells.toJson c)).toList)

def searchManyBody? : Json → Option (List String × Request)
  | .record fields => do
    let sources ← match ← (Json.record fields).slots? ["sources"] with
      | [sources] => Json.defaulted? [] (Json.listOf? Json.text?) sources
      | _ => none
    return (sources, ← Request.ofJson? (.record fields))
  | _ => none

def suggestBody? (json : Json) : Option (String × String) := do
  match ← json.slots? ["column", "value"] with
  | [column, value] =>
    return (← Json.required? Json.text? column, ← Json.defaulted? "" Json.text? value)
  | _ => none

def saveBody? (json : Json) : Option (Changes × Bool) := do
  match ← json.slots? ["changes", "dry_run"] with
  | [changes, dryRun] =>
    return (← Json.required? Cells.ofJson? changes, ← Json.defaulted? false Json.bool? dryRun)
  | _ => none

def replaceBody? (json : Json) : Option (Phrase × Bool) := do
  match ← json.slots? ["phrase", "dry_run"] with
  | [phrase, dryRun] =>
    return (← Json.required? Phrase.ofJson? phrase, ← Json.defaulted? false Json.bool? dryRun)
  | _ => none

variable {σ : Type} [Store σ] {α β : Type}

/-- Answer with what was decoded, or with the status that refuses it. -/
def decoded (d : Except Nat α) (go : α → StateM (Session σ) Response) :
    StateM (Session σ) Response :=
  match d with
  | .error status => pure ⟨status, none⟩
  | .ok a => go a

/-- Answer with what the engine gave, or with its error. -/
def answered (a : Access (Session σ) EngineError α) (encode : α → Response) :
    StateM (Session σ) Response := do
  match ← a.attempt with
  | .error e => pure (failed e)
  | .ok a => pure (encode a)

/-- Answer a request for a resource with a method that it allows. -/
def handleRoute (e : Engine) (m : Message) : Route → StateM (Session σ) Response
  | .health => pure (ok (.record [("status", .text "ok"), ("version", .text version)]))
  | .sources =>
    pure (ok (.record [("sources", .list (e.registry.entries.map Entry.toJson))]))
  | .searchMany => decoded (m.json searchManyBody?) fun (names, request) =>
    answered (Session.onStore (e.searchMany names request)) fun pages =>
      ok (.record [("pages", .list (pages.map Page.toJson))])
  | .schema name => decoded (sourceName name) fun name =>
    match e.schema name with
    | .error error => pure (failed error)
    | .ok schema => pure (ok schema.toJson)
  | .search name => decoded (sourceName name) fun name =>
    decoded (m.json Request.ofJson?) fun request =>
      answered (Session.onStore (e.searchOne name request)) fun page => ok page.toJson
  | .suggest name => decoded (sourceName name) fun name =>
    decoded (m.json suggestBody?) fun (column, text) =>
      answered (Session.onStore (e.suggest name column text)) fun found =>
        ok (.list (found.map Suggestion.toJson))
  | .preload name => decoded (sourceName name) fun name =>
    decoded (m.json Filter.ofJson?) fun filter =>
      answered (Session.onStore (e.preload name filter)) fun items =>
        ok (.list (items.map PreloadItem.toJson))
  | .row name rowId => decoded (rowName name rowId) fun (name, rowId) =>
    if m.method = "POST" then
      decoded (m.json saveBody?) fun (changes, dryRun) =>
        answered (e.save name rowId changes dryRun) fun _ => ok (success none)
    else if m.method = "DELETE" then
      decoded (dryRun m.query) fun dryRun =>
        answered (e.delete name rowId dryRun) fun _ => ok (success none)
    else
      answered (Session.onStore (e.row? name rowId)) fun hit =>
        match hit with
        | some hit => ok hit.toJson
        | none => rowMissing name rowId
  | .replace name rowId => decoded (rowName name rowId) fun (name, rowId) =>
    decoded (m.json replaceBody?) fun (phrase, dryRun) =>
      answered (e.replace name rowId phrase dryRun) fun changes => ok (success (some changes))

/-- Answer a request. A preflight request is answered for every path; the answer to a probe has no
body. -/
def handle (e : Engine) (m : Message) : StateM (Session σ) Response := do
  if m.method = "OPTIONS" then return ⟨200, none⟩
  match Route.ofPath? m.path with
  | none => return ⟨404, none⟩
  | some route =>
    if !route.methods.contains m.method then return ⟨405, none⟩
    let response ← handleRoute e m route
    return if m.method = "HEAD" then { response with body := none } else response

end TableSearch.Http
