import TableSearch.Regex.Program

/-!
# Running programs

All ways through a program advance together, one character at a time, ordered by preference: of
two that reach one instruction only the preferred goes on, and one that accepts ends those after
it. The match found from a start is therefore the one that trying the ways in order would find.
-/
namespace TableSearch.Regex

def isWord (ascii : Bool) : Option Char → Bool
  | none => false
  | some c =>
    if ascii || c.toNat < 0x80 then c.isAlphanum || c == '_'
    else CodePoint.wordCharacters.contains c

/-- Whether a position between two characters satisfies a condition. -/
def Look.holds (before after : Option Char) : Look → Bool
  | textStart => before.isNone
  | textEnd => after.isNone
  | lineStart => before.isNone || before == some '\n'
  | lineEnd => after.isNone || after == some '\n'
  | lineStartAny =>
    before.isNone || before == some '\n' || (before == some '\r' && after != some '\n')
  | lineEndAny =>
    after.isNone || after == some '\r' || (after == some '\n' && before != some '\r')
  | wordEdge ascii => isWord ascii before != isWord ascii after
  | notWordEdge ascii => isWord ascii before == isWord ascii after
  | wordStart ascii => !isWord ascii before && isWord ascii after
  | wordEnd ascii => isWord ascii before && !isWord ascii after
  | wordStartHalf ascii => !isWord ascii before
  | wordEndHalf ascii => !isWord ascii after

/-- Noted positions by slot. -/
abbrev Slots := Array (Option Nat)

/-- A way through the program, waiting at an instruction. -/
structure Thread where
  address : Nat
  slots : Slots
  deriving Inhabited

/-- The ways waiting at one position, the preferred first, and the addresses reached there. -/
structure Frontier where
  reached : Array Bool
  threads : Array Thread

def Frontier.empty (code : Code) : Frontier := ⟨Array.replicate code.size false, #[]⟩

/-- Follow a way that arrives at `address` to the instructions that consume or accept. The steps
are bounded by `fuel`: the size of the code is enough, as each step reaches a new address. -/
def follow (code : Code) (before after : Option Char) (position : Nat) :
    Nat → Nat → Slots → Frontier → Frontier
  | 0, _, _, f => f
  | fuel + 1, address, slots, f =>
    if f.reached.getD address true then f
    else
      let f := { f with reached := f.reached.setIfInBounds address true }
      match code[address]? with
      | none => f
      | some (.look l next) =>
        if l.holds before after then follow code before after position fuel next slots f else f
      | some (.save slot next) =>
        follow code before after position fuel next (slots.setIfInBounds slot (some position)) f
      | some (.split first second) =>
        follow code before after position fuel second slots
          (follow code before after position fuel first slots f)
      | some _ => { f with threads := f.threads.push ⟨address, slots⟩ }

/-- Let the waiting ways consume a character, in order, up to one that accepts. Gives the next
frontier and the slots of the way that accepted. -/
def advance (code : Code) (c : Char) (after : Option Char) (position : Nat) :
    List Thread → Frontier → Frontier × Option Slots
  | [], f => (f, none)
  | t :: ts, f =>
    match code[t.address]? with
    | some .accept => (f, some t.slots)
    | some (.set s next) =>
      if s.contains c then
        advance code c after position ts
          (follow code (some c) after (position + 1) code.size next t.slots f)
      else advance code c after position ts f
    | _ => advance code c after position ts f

def accepted (code : Code) (ts : List Thread) : Option Slots :=
  (ts.find? fun t => match code[t.address]? with
    | some .accept => true
    | _ => false).map (·.slots)

/-- Run the waiting ways on the rest of the text; `best` is what was accepted before. -/
def run (code : Code) : Nat → List Thread → Option Slots → List Char → Option Slots
  | _, [], best, _ => best
  | _, ts, best, [] => accepted code ts <|> best
  | position, ts, best, c :: cs =>
    let (f, found) := advance code c cs.head? position ts (Frontier.empty code)
    run code (position + 1) f.threads.toList (found <|> best) cs

/-- Where a match and its groups lie, in code points. -/
structure Match where
  start : Nat
  stop : Nat
  /-- The groups besides the match itself, by number; `none` for one that took no part. -/
  groups : List (Option (Nat × Nat))
  deriving DecidableEq, Repr, Inhabited

def Match.isEmpty (m : Match) : Bool := m.start == m.stop

def groupOf (slots : Slots) (index : Nat) : Option (Nat × Nat) := do
  return (← slots.getD (2 * index) none, ← slots.getD (2 * index + 1) none)

namespace Matcher

/-- The match that begins exactly at `position`, the rest of the text being `cs`. -/
def matchAt (m : Matcher) (before : Option Char) (position : Nat) (cs : List Char) :
    Option Match :=
  let slots : Slots := Array.replicate (2 * m.groups + 2) none
  let f := follow m.code before cs.head? position m.code.size m.start slots (.empty m.code)
  (run m.code position f.threads.toList none cs).bind fun slots =>
    (groupOf slots 0).map fun (start, stop) =>
      ⟨start, stop, (List.range m.groups).map fun i => groupOf slots (i + 1)⟩

/-- The leftmost match that begins at `position` or later. -/
def findFrom (m : Matcher) (before : Option Char) (position : Nat) : List Char → Option Match
  | [] => m.matchAt before position []
  | c :: cs =>
    match m.matchAt before position (c :: cs) with
    | some found => some found
    | none => findFrom m (some c) (position + 1) cs

/-- The leftmost match in a text that begins at `start` or later. -/
def find (m : Matcher) (text : List Char) (start : Nat) : Option Match :=
  if start ≤ text.length then
    m.findFrom (if start = 0 then none else text[start - 1]?) start (text.drop start)
  else none

/-- The matches from `start` on, one after the other. An empty match where the last one ended is
passed over in favour of the next one. -/
def matchesFrom (m : Matcher) (text : List Char) : Nat → Nat → Option Nat → List Match
  | 0, _, _ => []
  | fuel + 1, start, last =>
    let found := match m.find text start with
      | some found =>
        if found.isEmpty && last == some found.stop then m.find text (start + 1) else some found
      | none => none
    match found with
    | none => []
    | some found => found :: matchesFrom m text fuel found.stop (some found.stop)

/-- All matches in a text that do not overlap, from left to right. -/
def matchesIn (m : Matcher) (text : List Char) : List Match :=
  m.matchesFrom text (text.length + 2) 0 none

def isMatch (m : Matcher) (text : List Char) : Bool := (m.find text 0).isSome

end Matcher

def slice (text : List Char) (start stop : Nat) : List Char := (text.drop start).take (stop - start)

end TableSearch.Regex
