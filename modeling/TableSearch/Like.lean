import TableSearch.Text.Ascii

/-!
# Substring patterns

A substring pattern asks that a needle occurs in a text, or begins or ends it; ASCII letters match
in either case and no other characters do. Its SQL operand escapes the wildcards of the needle.
-/
namespace TableSearch

/-- Where a needle has to occur. -/
inductive Anchor where
  | anywhere
  | start
  | finish
  deriving DecidableEq, Repr, Inhabited

/-- A needle and where it has to occur. -/
structure LikePattern where
  anchor : Anchor
  needle : String
  deriving DecidableEq, Repr, Inhabited

namespace LikePattern

/-- The character that takes the meaning from a wildcard after it. -/
def escapeChar : Char := '\\'

def escapeOne (c : Char) : List Char :=
  if c == '%' || c == '_' || c == escapeChar then [escapeChar, c] else [c]

/-- The operand that matches a text literally. -/
def escape (s : String) : String := String.ofList (s.toList.flatMap escapeOne)

/-- The SQL operand of a pattern. -/
def operand (p : LikePattern) : String :=
  match p.anchor with
  | .anywhere => "%" ++ escape p.needle ++ "%"
  | .start => escape p.needle ++ "%"
  | .finish => "%" ++ escape p.needle

/-- Whether a text satisfies a pattern. -/
def accepts (p : LikePattern) (s : String) : Bool :=
  let needle := Text.foldAscii p.needle
  let text := Text.foldAscii s
  match p.anchor with
  | .anywhere => Text.contains needle text
  | .start => needle.isPrefixOf text
  | .finish => needle.isSuffixOf text

end LikePattern

end TableSearch
