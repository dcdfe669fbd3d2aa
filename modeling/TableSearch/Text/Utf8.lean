/-!
# UTF-8

Bytes of a text and back. Bytes that encode nothing are decoded to U+FFFD, one for each longest
run that begins like a character and is cut short.
-/
namespace TableSearch.Text.Utf8

/-- How many bytes follow a leading byte, and the range of the first of them. -/
def following? (lead : Nat) : Option (Nat × Nat × Nat) :=
  if 0xC2 ≤ lead && lead ≤ 0xDF then some (1, 0x80, 0xBF)
  else if lead == 0xE0 then some (2, 0xA0, 0xBF)
  else if lead == 0xED then some (2, 0x80, 0x9F)
  else if 0xE1 ≤ lead && lead ≤ 0xEF then some (2, 0x80, 0xBF)
  else if lead == 0xF0 then some (3, 0x90, 0xBF)
  else if 0xF1 ≤ lead && lead ≤ 0xF3 then some (3, 0x80, 0xBF)
  else if lead == 0xF4 then some (3, 0x80, 0x8F)
  else none

/-- Decode the bytes after a leading byte: `owed` of them, the first between `lo` and `hi`, the
bits read before being `acc`. Gives `none` for a character cut short, and the rest. -/
def tail (owed lo hi acc : Nat) : List UInt8 → Option Char × List UInt8
  | [] => (if owed = 0 then some (Char.ofNat acc) else none, [])
  | b :: bs =>
    if owed = 0 then (some (Char.ofNat acc), b :: bs)
    else if lo ≤ b.toNat && b.toNat ≤ hi then
      tail (owed - 1) 0x80 0xBF (acc * 64 + (b.toNat - 0x80)) bs
    else (none, b :: bs)

def leadBits (owed lead : Nat) : Nat :=
  if owed = 1 then lead - 0xC0 else if owed = 2 then lead - 0xE0 else lead - 0xF0

/-- Decode bytes; `none` stands for bytes that encode nothing. -/
def decodeWith : Nat → List UInt8 → List (Option Char)
  | 0, _ => []
  | _, [] => []
  | fuel + 1, b :: bs =>
    if b.toNat < 0x80 then some (Char.ofNat b.toNat) :: decodeWith fuel bs
    else
      match following? b.toNat with
      | none => none :: decodeWith fuel bs
      | some (owed, lo, hi) =>
        let (c, bs) := tail owed lo hi (leadBits owed b.toNat) bs
        c :: decodeWith fuel bs

/-- The characters that bytes encode, with U+FFFD for bytes that encode nothing. -/
def decode (bytes : List UInt8) : List Char :=
  (decodeWith bytes.length bytes).map (·.getD '\ufffd')

/-- The characters that bytes encode, if all of them do. -/
def decode? (bytes : List UInt8) : Option (List Char) :=
  (decodeWith bytes.length bytes).mapM id

def encode (s : String) : List UInt8 := s.toUTF8.toList

/-- Replace `%` and two hexadecimal digits by the byte they denote. -/
def percentDecode : List UInt8 → List UInt8
  | 0x25 :: a :: b :: rest =>
    match hexDigit? a, hexDigit? b with
    | some m, some n => UInt8.ofNat (m * 16 + n) :: percentDecode rest
    | _, _ => 0x25 :: percentDecode (a :: b :: rest)
  | b :: rest => b :: percentDecode rest
  | [] => []
where
  /-- The value of an ASCII hexadecimal digit. -/
  hexDigit? (b : UInt8) : Option Nat :=
    let n := b.toNat
    if 48 ≤ n && n ≤ 57 then some (n - 48)
    else if 97 ≤ n && n ≤ 102 then some (n - 87)
    else if 65 ≤ n && n ≤ 70 then some (n - 55)
    else none

end TableSearch.Text.Utf8
