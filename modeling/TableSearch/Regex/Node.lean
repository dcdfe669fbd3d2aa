import TableSearch.CodePoint.Set

/-!
# Patterns as trees

A pattern denotes a tree of character sets, positions, groups, repetitions, sequences and
alternatives. Groups without a number only hold a subtree together.
-/
namespace TableSearch.Regex

/-- A condition on a position of the text that consumes nothing. -/
inductive Look where
  /-- The start of the text. -/
  | textStart
  /-- The end of the text. -/
  | textEnd
  /-- The start of a line; lines end with `\n`. -/
  | lineStart
  /-- The end of a line; lines end with `\n`. -/
  | lineEnd
  /-- The start of a line; lines end with `\r\n`, `\r` or `\n`. -/
  | lineStartAny
  /-- The end of a line; lines end with `\r\n`, `\r` or `\n`. -/
  | lineEndAny
  /-- A word begins or ends here. -/
  | wordEdge (ascii : Bool)
  /-- No word begins or ends here. -/
  | notWordEdge (ascii : Bool)
  /-- A word begins here. -/
  | wordStart (ascii : Bool)
  /-- A word ends here. -/
  | wordEnd (ascii : Bool)
  /-- No word character comes before. -/
  | wordStartHalf (ascii : Bool)
  /-- No word character comes next. -/
  | wordEndHalf (ascii : Bool)
  deriving DecidableEq, Repr, Inhabited

/-- A pattern. -/
inductive Node where
  | empty
  /-- One character of a set. -/
  | set (s : CodeSet)
  | look (l : Look)
  /-- A group; one with a number captures what it matched. -/
  | group (index : Option Nat) (body : Node)
  /-- At least `least` and at most `most` copies in sequence, many first if `greedy`. -/
  | repeated (least : Nat) (most : Option Nat) (greedy : Bool) (body : Node)
  | concat (parts : List Node)
  /-- The first alternative that leads to a match wins. -/
  | alt (branches : List Node)
  deriving Inhabited, Repr

namespace Node

mutual

/-- How deeply groups, repetitions, sequences and alternatives nest. -/
def depth : Node → Nat
  | empty => 0
  | set _ => 0
  | look _ => 0
  | group _ body => body.depth + 1
  | repeated _ _ _ body => body.depth + 1
  | concat parts => depthAll parts + 1
  | alt branches => depthAll branches + 1

def depthAll : List Node → Nat
  | [] => 0
  | node :: nodes => max node.depth (depthAll nodes)

end

mutual

/-- Whether the pattern matches the empty text only. -/
def isBlank : Node → Bool
  | empty => true
  | set _ => false
  | look _ => true
  | group _ body => body.isBlank
  | repeated _ most _ body => most == some 0 || body.isBlank
  | concat parts => allBlank parts
  | alt branches => allBlank branches

def allBlank : List Node → Bool
  | [] => true
  | node :: nodes => node.isBlank && allBlank nodes

end

mutual

def isNullable : Node → Bool
  | empty => true
  | set _ => false
  | look _ => true
  | group _ body => body.isNullable
  | repeated least _ _ body => least == 0 || body.isNullable
  | concat parts => allNullable parts
  | alt branches => anyNullable branches

def allNullable : List Node → Bool
  | [] => true
  | node :: nodes => node.isNullable && allNullable nodes

def anyNullable : List Node → Bool
  | [] => false
  | node :: nodes => node.isNullable || anyNullable nodes

end

mutual

/-- Cut repetitions that change nothing: none of a pattern is the empty pattern, one of it is the
pattern, and of a pattern without width one copy is as good as many. -/
def simplify : Node → Node
  | empty => empty
  | set s => set s
  | look l => look l
  | group index body => group index body.simplify
  | repeated least most greedy body =>
    let body := body.simplify
    let blank := body.isBlank
    let least := if blank then min least 1 else least
    let most := if blank then some (min (most.getD 1) 1) else most
    if most == some 0 then empty
    else if least == 1 && most == some 1 then body
    else repeated least most greedy body
  | concat parts => concat (simplifyAll parts)
  | alt branches => alt (simplifyAll branches)

def simplifyAll : List Node → List Node
  | [] => []
  | node :: nodes => node.simplify :: simplifyAll nodes

end

mutual

/-- The largest group number, zero without groups. -/
def groups : Node → Nat
  | empty => 0
  | set _ => 0
  | look _ => 0
  | group index body => max (index.getD 0) body.groups
  | repeated _ _ _ body => body.groups
  | concat parts => groupsAll parts
  | alt branches => groupsAll branches

def groupsAll : List Node → Nat
  | [] => 0
  | node :: nodes => max node.groups (groupsAll nodes)

end

end Node

end TableSearch.Regex
