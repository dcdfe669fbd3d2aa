import TableSearch.Json.Reader
import TableSearch.Text.Utf8
import TableSearch.Url.Domain

/-!
# Hosts

A host is an IPv6 address in brackets or a domain name; a domain name that ends in a number has
to be an IPv4 address.
-/
namespace TableSearch.Url

/-- The number that an IPv4 part denotes: decimal, octal after `0` or hexadecimal after `0x`.
`none` for text that is no number. -/
def ipv4Number? (part : List Char) : Option Nat :=
  let read (base : Nat) (digits : List Char) : Option Nat :=
    digits.foldl (fun acc c => do
      let d ← Json.Reader.hexValue? c
      if d < base then some ((← acc) * base + d) else none) (some 0)
  match part with
  | [] => none
  | '0' :: 'x' :: digits => read 16 digits
  | '0' :: 'X' :: digits => read 16 digits
  | '0' :: d :: digits => read 8 (d :: digits)
  | digits => read 10 digits

/-- The parts of a domain name without the empty part after a last full stop. -/
def hostParts (name : List Char) : List (List Char) :=
  let parts := labels name
  match parts.reverse with
  | [] :: rest => rest.reverse
  | _ => parts

def endsInNumber (name : List Char) : Bool :=
  match (hostParts name).getLast? with
  | none => false
  | some last => (!last.isEmpty && last.all Char.isDigit) || (ipv4Number? last).isSome

/-- Whether a domain name is an IPv4 address: up to four numbers, of which all but the last are
bytes and the last fills the remaining bytes. -/
def isIpv4 (name : List Char) : Bool :=
  let parts := hostParts name
  match parts.mapM ipv4Number? with
  | none => false
  | some numbers =>
    match numbers.reverse with
    | [] => false
    | last :: rest => numbers.length ≤ 4 && rest.all (· ≤ 255) && last < Nat.pow 256 (4 - rest.length)

/-- The dotted numbers at the end of an IPv6 address: four bytes without leading zeros. -/
def isDottedBytes (cs : List Char) : Bool :=
  let parts := labels cs
  parts.length == 4 && parts.all fun part =>
    !part.isEmpty && part.all Char.isDigit && Nat.ofDigitChars 10 part 0 ≤ 255 &&
      (part.length == 1 || part.head? != some '0')

/-- Read the pieces of an IPv6 address from piece number `piece` on; `compressed` tells whether a
double colon was read. -/
def isIpv6From : Nat → Nat → Bool → List Char → Bool
  | 0, _, _, _ => false
  | _, piece, compressed, [] => compressed || piece == 8
  | fuel + 1, piece, compressed, c :: cs =>
    if piece ≥ 8 then false
    else if c == ':' then (if compressed then false else isIpv6From fuel (piece + 1) true cs)
    else
      let digits := ((c :: cs).take 4).takeWhile fun c => (Json.Reader.hexValue? c).isSome
      match (c :: cs).drop digits.length with
      | [] => isIpv6From fuel (piece + 1) compressed []
      | '.' :: _ =>
        !digits.isEmpty && piece ≤ 6 && isDottedBytes (c :: cs) &&
          (compressed || piece == 6)
      | ':' :: [] => false
      | ':' :: rest => !digits.isEmpty && isIpv6From fuel (piece + 1) compressed rest
      | _ => false

def isIpv6 (cs : List Char) : Bool :=
  match cs with
  | [] => false
  | [_] => false
  | ':' :: ':' :: rest => isIpv6From (rest.length + 2) 1 true rest
  | ':' :: _ => false
  | cs => isIpv6From (cs.length + 2) 0 false cs

/-- Whether characters are a host. -/
def isHost (cs : List Char) : Bool :=
  match cs with
  | '[' :: rest =>
    match rest.reverse with
    | ']' :: inner => isIpv6 inner.reverse
    | _ => false
  | cs =>
    match (Text.Utf8.decode? (Text.Utf8.percentDecode (Text.Utf8.encode (String.ofList cs)))).bind
        domain? with
    | none => false
    | some name => !name.isEmpty && (!endsInNumber name || isIpv4 name)

end TableSearch.Url
