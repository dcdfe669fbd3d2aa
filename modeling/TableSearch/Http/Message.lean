import TableSearch.Json.Reader
import TableSearch.Json.Record
import TableSearch.Text.Ascii
import TableSearch.Text.Utf8

/-!
# HTTP requests and responses

What the handlers see of a request, and the parts that can be malformed: the body has to be JSON of
the right shape under a JSON content type, the query a list of fields.
-/
namespace TableSearch.Http

/-- A request; the target is a path with an optional query. -/
structure Message where
  method : String
  target : String
  contentType : Option String := none
  body : String := ""
  deriving DecidableEq, Repr, Inhabited

/-- A response; a body is JSON. -/
structure Response where
  status : Nat
  body : Option Json := none
  deriving Inhabited

namespace Message

/-- The target without a fragment. -/
def resource (m : Message) : List Char := m.target.toList.takeWhile (· != '#')

/-- The path of the target, still encoded. -/
def path (m : Message) : List Char := m.resource.takeWhile (· != '?')

/-- The query of the target, still encoded. -/
def query (m : Message) : List Char := (m.resource.dropWhile (· != '?')).drop 1

/-- Whether a content type is that of JSON: `application/json`, or an application type whose name
ends in `+json`. -/
def isJsonType (s : String) : Bool :=
  let essence := (Text.foldAscii s).takeWhile (· != ';')
  let essence := (essence.reverse.dropWhile (· == ' ')).reverse
  essence == "application/json".toList ||
    ("application/".toList.isPrefixOf essence && "+json".toList.isSuffixOf essence)

/-- The body as `read` reads it, or the status that refuses it. -/
def json (m : Message) (read : Json → Option α) : Except Nat α :=
  if !(m.contentType.map isJsonType).getD false then .error 415
  else
    match Json.read? m.body with
    | none => .error 400
    | some tree =>
      match read tree with
      | none => .error 422
      | some a => .ok a

end Message

def splitAt (separator : Char) : List Char → List (List Char)
  | [] => [[]]
  | c :: cs =>
    if c = separator then [] :: splitAt separator cs
    else
      match splitAt separator cs with
      | [] => [[c]]
      | part :: parts => (c :: part) :: parts

def decodeSegment? (cs : List Char) : Option String :=
  (Text.Utf8.decode? (Text.Utf8.percentDecode (Text.Utf8.encode (String.ofList cs)))).map
    String.ofList

/-- The text that an encoded part of a query denotes: a plus sign is a space. -/
def decodeField (cs : List Char) : String :=
  let cs := cs.map fun c => if c = '+' then ' ' else c
  String.ofList (Text.Utf8.decode (Text.Utf8.percentDecode (Text.Utf8.encode (String.ofList cs))))

def fields (query : List Char) : List (String × String) :=
  ((splitAt '&' query).filter (!·.isEmpty)).map fun field =>
    (decodeField (field.takeWhile (· != '=')), decodeField ((field.dropWhile (· != '=')).drop 1))

/-- Whether a query asks for a dry run, or the status that refuses it. -/
def dryRun (query : List Char) : Except Nat Bool :=
  match (fields query).filter (·.1 == "dry_run") with
  | [] => .ok false
  | [(_, "true")] => .ok true
  | [(_, "false")] => .ok false
  | _ => .error 400

end TableSearch.Http
