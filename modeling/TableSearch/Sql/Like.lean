import TableSearch.Text.Ascii

/-!
# The LIKE operator

A percent sign in a pattern stands for any characters, an underscore for any one, and a character
after the escape character for itself. Other characters match themselves, ASCII letters in either
case.
-/
namespace TableSearch.Sql

def sameLetter (a b : Char) : Bool := a.toLower == b.toLower

/-- Whether a text matches a pattern. -/
def like (escape : Char) : List Char → List Char → Bool
  | [], text => text.isEmpty
  | p :: ps, text =>
    if p = escape then
      match ps, text with
      | q :: qs, c :: cs => sameLetter q c && like escape qs cs
      | _, _ => false
    else if p = '%' then anySuffix (like escape ps) text
    else
      match text with
      | [] => false
      | c :: cs => (p = '_' || sameLetter p c) && like escape ps cs
where
  /-- Whether some rest of a text satisfies `matched`. -/
  anySuffix (matched : List Char → Bool) : List Char → Bool
    | [] => matched []
    | c :: cs => matched (c :: cs) || anySuffix matched cs

end TableSearch.Sql
