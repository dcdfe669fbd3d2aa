import TableSearch.Regex.Reader

/-!
# Programs of patterns

A pattern is compiled backwards: the code of a part is written once the address of what follows
it is known. Slots `2i` and `2i + 1` hold where group `i` began and ended; group 0 is the match.

A program is refused when it is too large. Its size is estimated from the tree, so a pattern whose
program comes close to the limit of ten megabytes may be decided either way.
-/
namespace TableSearch.Regex

/-- One instruction. Addresses are indices into the code. -/
inductive Inst where
  | accept
  /-- Go on if the position satisfies a condition. -/
  | look (l : Look) (next : Nat)
  /-- Note the position in a slot. -/
  | save (slot : Nat) (next : Nat)
  /-- Consume one character of a set. -/
  | set (s : CodeSet) (next : Nat)
  /-- Try two ways, the first before the second. -/
  | split (first second : Nat)
  deriving Repr, Inhabited

abbrev Code := Array Inst

/-- An entry address together with the code written so far. -/
abbrev Entry := Nat × Code

def Code.emit (code : Code) (i : Inst) : Entry := (code.size, code.push i)

/-- The choice between one more copy and going on. -/
def choice (greedy : Bool) (more next : Nat) : Inst :=
  if greedy then .split more next else .split next more

def copies (part : Entry → Entry) : Nat → Entry → Entry
  | 0, e => e
  | n + 1, e => copies part n (part e)

/-- Write up to `n` copies of a part in sequence; after each the rest may be left out. -/
def options (greedy : Bool) (part : Entry → Entry) (next : Nat) : Nat → Entry → Entry
  | 0, e => e
  | n + 1, e =>
    let (more, code) := part e
    options greedy part next n (code.emit (choice greedy more next))

/-- Write a loop that runs a part at least once: its entry is that of the part. The address of
the choice after each copy is given back as well. -/
def loop (greedy : Bool) (part : Entry → Entry) (next : Nat) (code : Code) : Nat × Entry :=
  let (again, code) := code.emit (.split next next)
  let (more, code) := part (again, code)
  (again, more, code.setIfInBounds again (choice greedy more next))

mutual

/-- Write the code of a pattern that goes on at the given entry. -/
def Node.emit (node : Node) (e : Entry) : Entry :=
  match node with
  | .empty => e
  | .set s => e.2.emit (.set s e.1)
  | .look l => e.2.emit (.look l e.1)
  | .group none body => body.emit e
  | .group (some index) body =>
    let e := body.emit (e.2.emit (.save (2 * index + 1) e.1))
    e.2.emit (.save (2 * index) e.1)
  | .repeated least (some most) greedy body =>
    copies (fun e => body.emit e) least
      (options greedy (fun e => body.emit e) e.1 (most - least) e)
  | .repeated 0 none greedy body =>
    let (again, more, code) := loop greedy (fun e => body.emit e) e.1 e.2
    if body.isNullable then code.emit (choice greedy more e.1) else (again, code)
  | .repeated (least + 1) none greedy body =>
    copies (fun e => body.emit e) least (loop greedy (fun e => body.emit e) e.1 e.2).2
  | .concat parts => emitAll parts e
  | .alt branches => emitBranches branches e.1 e.2

def emitAll (nodes : List Node) (e : Entry) : Entry :=
  match nodes with
  | [] => e
  | node :: nodes => node.emit (emitAll nodes e)

/-- Write alternatives that all go on at `next`. -/
def emitBranches (nodes : List Node) (next : Nat) (code : Code) : Entry :=
  match nodes with
  | [] => (next, code)
  | [node] => node.emit (next, code)
  | node :: nodes =>
    let (second, code) := emitBranches nodes next code
    let (first, code) := node.emit (next, code)
    code.emit (.split first second)

end

/-- The weight of a set in a program: its ranges beyond ASCII take several steps to match. -/
def CodeSet.weight (s : CodeSet) : Nat := 32 + 64 * (s.ranges.filter (·.2 ≥ 0x80)).length

mutual

/-- The weight of a pattern's program, in bytes of an automaton over encoded text. -/
def Node.weight : Node → Nat
  | .empty => 32
  | .set s => CodeSet.weight s
  | .look _ => 32
  | .group _ body => body.weight + 64
  | .repeated least most _ body => (max least (most.getD (least + 1))) * (body.weight + 32)
  | .concat parts => weightAll parts
  | .alt branches => weightAll branches + 32

def weightAll : List Node → Nat
  | [] => 0
  | node :: nodes => node.weight + weightAll nodes

end

def maxWeight : Nat := 10 * 0x100000

/-- A pattern ready to run. -/
structure Matcher where
  code : Code
  start : Nat
  /-- The number of groups besides the match itself. -/
  groups : Nat
  /-- The numbers of the named groups. -/
  names : List (String × Nat)
  deriving Inhabited

def Matcher.ofNode (node : Node) (names : List (String × Nat)) : Matcher :=
  let node := node.simplify
  let (start, code) := (Node.group (some 0) node).emit (Code.emit #[] .accept)
  { code, start, groups := node.groups, names }

def Matcher.compile (flags : Flags) (pattern : String) : Except PatternError Matcher := do
  let (node, names) ← readPattern flags pattern
  if node.simplify.weight > maxWeight then .error .tooLarge else .ok (.ofNode node names)

def Matcher.literal (flags : Flags) (text : String) : Matcher :=
  .ofNode (.concat (text.toList.map fun c => .set (flags.fold (.single c)))) []

/-- The program that matches a literal text, unless it is too large. -/
def Matcher.compileLiteral (flags : Flags) (text : String) : Except PatternError Matcher :=
  if weightAll (text.toList.map fun c => .set (flags.fold (.single c))) > maxWeight then
    .error .tooLarge
  else .ok (.literal flags text)

end TableSearch.Regex
