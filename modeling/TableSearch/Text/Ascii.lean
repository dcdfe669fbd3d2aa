/-!
# ASCII letter case

Folding that touches the 26 ASCII letters and nothing else.
-/
namespace TableSearch.Text

/-- The ASCII capital letters become small; every other character stays. -/
def foldAscii (s : String) : List Char := s.toList.map Char.toLower

def eqIgnoringAsciiCase (a b : String) : Bool := foldAscii a == foldAscii b

def contains [BEq α] (needle : List α) : List α → Bool
  | [] => needle.isEmpty
  | c :: cs => needle.isPrefixOf (c :: cs) || contains needle cs

end TableSearch.Text
