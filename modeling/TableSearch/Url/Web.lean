import TableSearch.Url.Host

/-!
# Web addresses

Absolute URLs of the schemes `http`, `https` and `ftp`, read as browsers read them: the slashes
after the scheme may be missing or doubled, and line breaks and tabs are dropped.
-/
namespace TableSearch.Url

def schemes : List String := ["http", "https", "ftp"]

/-- Drop control characters and spaces at both ends, and line breaks and tabs everywhere. -/
def clean (cs : List Char) : List Char :=
  let isEdge (c : Char) : Bool := c.toNat ≤ 0x20
  (((cs.dropWhile isEdge).reverse.dropWhile isEdge).reverse).filter fun c =>
    c != '\t' && c != '\n' && c != '\r'

/-- The scheme of an absolute URL in small letters, and what follows its colon. -/
def scheme? (cs : List Char) : Option (String × List Char) :=
  match cs with
  | c :: _ =>
    let scheme := cs.takeWhile fun c => c.isAlphanum || c == '+' || c == '-' || c == '.'
    match cs.drop scheme.length with
    | ':' :: rest =>
      if c.isAlpha then some (String.ofList (scheme.map Char.toLower), rest) else none
    | _ => none
  | [] => none

def endsAuthority (c : Char) : Bool := c == '/' || c == '\\' || c == '?' || c == '#'

/-- The part of a host before its port: colons in brackets belong to the host. -/
def beforePort (inBrackets : Bool) : List Char → List Char
  | [] => []
  | c :: cs =>
    if c == ':' && !inBrackets then []
    else if c == '[' then c :: beforePort true cs
    else if c == ']' then c :: beforePort false cs
    else c :: beforePort inBrackets cs

/-- Whether characters are nothing, or a colon and a port number, which may be missing. -/
def isPort (cs : List Char) : Bool :=
  match cs with
  | [] => true
  | ':' :: digits => digits.all Char.isDigit && Nat.ofDigitChars 10 digits 0 ≤ 65535
  | _ => false

def isWebAddress (cs : List Char) : Bool :=
  match scheme? (clean cs) with
  | none => false
  | some (scheme, rest) =>
    let authority := (rest.dropWhile fun c => c == '/' || c == '\\').takeWhile (!endsAuthority ·)
    let host := (authority.reverse.takeWhile (· != '@')).reverse
    let name := beforePort false host
    schemes.contains scheme && !name.isEmpty && isHost name && isPort (host.drop name.length)

end TableSearch.Url
