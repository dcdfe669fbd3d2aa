import TableSearch.CodePoint.Class
import TableSearch.Url.Mapping

/-!
# Domain names

The mapping and the checks of international domain names: letters are folded, characters that
stand for ASCII ones are replaced, and labels are checked one by one.
-/
namespace TableSearch.Url

def isForbidden (c : Char) : Bool :=
  c.toNat ≤ 0x20 || c.toNat == 0x7F || "%#/:<>?@[\\]^|".toList.contains c

/-- The characters that stand for ASCII characters, with what they stand for. -/
def mappings : List (Nat × Nat × List Nat) :=
  let read (entry : String.Slice) : Option (Nat × Nat × List Nat) :=
    match (entry.split '>').toList with
    | [codes, images] =>
      let images := (images.split ',').toList.map CodeSet.hexNumber
      match (codes.split "..").toList with
      | [lo, hi] => some (CodeSet.hexNumber lo, CodeSet.hexNumber hi, images)
      | _ => some (CodeSet.hexNumber codes, CodeSet.hexNumber codes, images)
    | _ => none
  ((singleMappings ++ " " ++ multipleMappings).split Char.isWhitespace).toList.filterMap read

def isFullStop (c : Char) : Bool := c == '.' || c == '\u3002' || c == '\uff0e' || c == '\uff61'

def disallowed : CodeSet :=
  CodePoint.unionAll [CodePoint.other, CodePoint.separators,
    CodeSet.ofText "115F..1160 17B4..17B5 2183 2FF0..2FFF 3164 FFA0 FFFC..FFFD"]

/-- The image of a character, if a domain name may contain it. -/
def mapChar? (c : Char) : Option (List Char) :=
  if isFullStop c then some ['.']
  else if c.toNat < 0x80 then (if isForbidden c then none else some [c.toLower])
  else if dropped.contains c then some []
  else
    match mappings.find? fun (lo, hi, _) => lo ≤ c.toNat && c.toNat ≤ hi with
    | some (lo, _, images) =>
      let image := match images with
        | [first] => [Char.ofNat (first + (c.toNat - lo))]
        | images => images.map Char.ofNat
      if image.any isForbidden then none else some image
    | none => if disallowed.contains c then none else some [c]

/-- The labels of a domain name, which full stops separate. -/
def labels : List Char → List (List Char)
  | [] => [[]]
  | c :: cs =>
    if c == '.' then [] :: labels cs
    else
      match labels cs with
      | [] => [[c]]
      | label :: rest => (c :: label) :: rest

/-- How far the thresholds of a punycode number adapt after each code point. -/
def adapt (delta count : Nat) (first : Bool) : Nat :=
  let delta := if first then delta / 700 else delta / 2
  let rec go : Nat → Nat → Nat → Nat
    | 0, delta, k => k + 36 * delta / (delta + 38)
    | fuel + 1, delta, k =>
      if delta > 455 then go fuel (delta / 35) (k + 36) else k + 36 * delta / (delta + 38)
  go 64 (delta + delta / count) 0

def punycodeDigit? (c : Char) : Option Nat :=
  if 'a' ≤ c && c ≤ 'z' then some (c.toNat - 97)
  else if 'A' ≤ c && c ≤ 'Z' then some (c.toNat - 65)
  else if c.isDigit then some (c.toNat - 22)
  else none

/-- Read one generalised number of punycode. -/
def punycodeNumber? (bias : Nat) : Nat → Nat → Nat → List Char → Option (Nat × List Char)
  | _, _, _, [] => none
  | k, weight, acc, c :: cs => do
    let digit ← punycodeDigit? c
    let acc := acc + digit * weight
    if acc ≥ 0x100000000 then none
    else
      let t := if k ≤ bias then 1 else if k ≥ bias + 26 then 26 else k - bias
      if digit < t then some (acc, cs)
      else punycodeNumber? bias (k + 36) (weight * (36 - t)) acc cs

/-- Insert the code points that punycode numbers denote into `out`, starting from code point `n`
at index `i`; `first` tells whether none was inserted before. -/
def punycodeInsert? : Nat → Nat → Nat → Nat → Bool → List Char → List Char → Option (List Char)
  | 0, _, _, _, _, _, _ => none
  | _, _, _, _, _, out, [] => some out
  | fuel + 1, n, i, bias, first, out, cs => do
    let (delta, cs) ← punycodeNumber? bias 36 1 0 cs
    let count := out.length + 1
    let n := n + (i + delta) / count
    let i := (i + delta) % count
    if n ≥ 0x110000 || (0xD800 ≤ n && n ≤ 0xDFFF) then none
    else
      punycodeInsert? fuel n (i + 1) (adapt delta count first) false
        (out.take i ++ Char.ofNat n :: out.drop i) cs

/-- The text that a punycode label denotes, given without its mark `xn--`. -/
def punycode? (cs : List Char) : Option (List Char) :=
  let digits := (cs.reverse.takeWhile (· != '-')).reverse
  let basic := cs.take (cs.length - digits.length - 1)
  if digits.isEmpty then none
  else punycodeInsert? (digits.length + 1) 0x80 0 72 true basic digits

/-- The text of a label: a label marked as punycode is decoded, and has to be one that is written
that way. -/
def labelText? (label : List Char) : Option (List Char) :=
  match label with
  | 'x' :: 'n' :: '-' :: '-' :: rest =>
    (punycode? rest).filter fun text =>
      text.any (·.toNat ≥ 0x80) && text.all fun c => c != '.' && mapChar? c == some [c]
  | label => some label

/-- Whether a character is written from right to left, or is an Arabic number. -/
def isRightToLeft (c : Char) : Bool :=
  bidiRight.contains c || bidiArabicLetter.contains c || bidiArabicNumber.contains c

/-- The rule on writing directions for one label of a domain name that is written from right to
left in part: a label keeps to one direction from its first letter to its end. -/
def keepsDirection (label : List Char) : Bool :=
  let core := (label.reverse.dropWhile bidiMark.contains).reverse
  let neutral (c : Char) : Bool :=
    bidiNumber.contains c || bidiSeparator.contains c || bidiCommonSeparator.contains c ||
      bidiTerminator.contains c || bidiNeutral.contains c || bidiBoundary.contains c ||
      bidiMark.contains c
  match label, core.getLast? with
  | [], _ => true
  | _, none => false
  | first :: _, some last =>
    if bidiRight.contains first || bidiArabicLetter.contains first then
      label.all (fun c => isRightToLeft c || neutral c) &&
        (isRightToLeft last || bidiNumber.contains last) &&
        !(label.any bidiNumber.contains && label.any bidiArabicNumber.contains)
    else
      let isLeft (c : Char) : Bool := !isRightToLeft c && !neutral c
      isLeft first && label.all (fun c => isLeft c || neutral c) &&
        (isLeft last || bidiNumber.contains last)

/-- The domain name that characters denote after mapping, if it is one. -/
def domain? (cs : List Char) : Option (List Char) := do
  let name := (← cs.mapM mapChar?).flatten
  if name.all (·.toNat < 0x80) && !(labels name).any (['x', 'n', '-', '-'].isPrefixOf ·) then
    some name
  else
    let texts ← (labels name).mapM labelText?
    let startsWithMark := texts.any fun text => (text.head?.map CodePoint.marks.contains).getD false
    let directed := !texts.any (·.any isRightToLeft) || texts.all keepsDirection
    if startsWithMark || !directed then none else some name

end TableSearch.Url
