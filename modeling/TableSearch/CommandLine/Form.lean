import TableSearch.Command

/-!
# Forms of command lines

A form lists the parameters that a command line fills in by place and the settings that it makes
by name. Arguments are taken from left to right, and the first that does not fit ends the reading.
-/
namespace TableSearch.CommandLine

/-- What the text of a value has to be. -/
inductive ValueKind where
  | text
  | path
  | integer
  | assignment
  deriving DecidableEq, Repr, Inhabited

def ValueKind.accepts : ValueKind → String → Bool
  | text, _ => true
  | path, s => !s.isEmpty
  | integer, s => (Text.readInt64? s).isSome
  | assignment, s => (Command.assignment? s).isSome

/-- A value that is asked for. -/
structure ValueForm where
  /-- The word that stands for the value in help texts. -/
  placeholder : String
  kind : ValueKind := .text
  default : Option String := none
  deriving DecidableEq, Repr, Inhabited

/-- A value that is given by its place. Only the last of a form may be `many`. -/
structure Parameter where
  value : ValueForm
  /-- Whether any number of values may be given. -/
  many : Bool := false
  help : String := ""
  deriving DecidableEq, Repr, Inhabited

/-- What is given by its name after two dashes. -/
structure Setting where
  name : String
  /-- The value of the setting; a switch has none. -/
  value : Option ValueForm := none
  repeatable : Bool := false
  required : Bool := false
  help : String := ""
  deriving DecidableEq, Repr, Inhabited

/-- What may stand on a command line. -/
structure Form where
  name : String
  summary : String
  /-- What the long help says in place of the summary. -/
  details : Option String := none
  parameters : List Parameter := []
  settings : List Setting := []
  /-- The version that may be asked for. -/
  version : Option String := none
  deriving DecidableEq, Repr, Inhabited

/-- Why the reading of a command line ends before its end. -/
inductive Stop where
  | misuse
  | help (long : Bool)
  | version (text : String)
  deriving DecidableEq, Repr, Inhabited

/-- What was given so far: values by place, and settings by name. A switch is given as the empty
text. -/
structure Given where
  places : List String := []
  named : List (String × String) := []
  deriving DecidableEq, Repr, Inhabited

namespace Given

def has (g : Given) (name : String) : Bool := g.named.any (·.1 == name)

def values (g : Given) (name : String) : List String :=
  (g.named.filter (·.1 == name)).map (·.2)

def value? (g : Given) (name : String) : Option String := (g.values name).head?

/-- Make a setting, which must not be made already unless it is repeatable. -/
def make (g : Given) (s : Setting) (value : String) : Except Stop Given :=
  if g.has s.name && !s.repeatable then .error .misuse
  else .ok { g with named := g.named ++ [(s.name, value)] }

end Given

/-- What an argument looks like. -/
inductive Shape where
  /-- Two dashes, after which every argument is a value. -/
  | divider
  | long (name : String) (value : Option String)
  | short (letter : Char)
  | plain
  deriving DecidableEq, Repr, Inhabited

/-- The shape of an argument. A single dash is plain. -/
def Shape.of (argument : String) : Shape :=
  match argument.toList with
  | ['-', '-'] => divider
  | '-' :: '-' :: cs =>
    let name := cs.takeWhile (· != '=')
    match cs.drop name.length with
    | [] => long (String.ofList name) none
    | _ :: value => long (String.ofList name) (some (String.ofList value))
  | '-' :: c :: _ => short c
  | _ => plain

/-- A reading of arguments. -/
structure Reading where
  given : Given := {}
  /-- A setting whose value has to come next. -/
  awaiting : Option (Setting × ValueForm) := none
  /-- Whether every further argument is a value. -/
  divided : Bool := false
  deriving DecidableEq, Repr, Inhabited

namespace Form

def setting? (f : Form) (name : String) : Option Setting := f.settings.find? (·.name == name)

/-- The parameter that the value at a place fills in. -/
def parameter? (f : Form) (place : Nat) : Option Parameter :=
  f.parameters[place]? <|> f.parameters.getLast?.filter (·.many)

def fill (f : Form) (g : Given) (argument : String) : Except Stop Given :=
  match f.parameter? g.places.length with
  | none => .error .misuse
  | some p =>
    if p.value.kind.accepts argument then .ok { g with places := g.places ++ [argument] }
    else .error .misuse

def assign (g : Given) (s : Setting) (v : ValueForm) (argument : String) : Except Stop Given :=
  if v.kind.accepts argument then g.make s argument else .error .misuse

/-- Read the name of a setting and the value that is attached to it. -/
def named (f : Form) (g : Given) (name : String) (value : Option String) :
    Except Stop Reading :=
  match f.setting? name, value with
  | some s, value =>
    match s.value, value with
    | none, none => (g.make s "").map ({ given := · })
    | none, some _ => .error .misuse
    | some v, some argument => (assign g s v argument).map ({ given := · })
    | some v, none => .ok { given := g, awaiting := some (s, v) }
  | none, some _ => .error .misuse
  | none, none =>
    match name, f.version with
    | "help", _ => .error (.help true)
    | "version", some text => .error (.version text)
    | _, _ => .error .misuse

/-- Read an argument while no value is awaited. -/
def next (f : Form) (g : Given) (argument : String) : Except Stop Reading :=
  match Shape.of argument with
  | .divider => .ok { given := g, divided := true }
  | .long name value => f.named g name value
  | .short 'h' => .error (.help false)
  | .short 'V' =>
    match f.version with
    | some text => .error (.version text)
    | none => .error .misuse
  | .short _ => .error .misuse
  | .plain => (f.fill g argument).map ({ given := · })

def step (f : Form) (r : Reading) (argument : String) : Except Stop Reading :=
  match r.awaiting, r.divided with
  | some (s, v), _ =>
    if Shape.of argument = .plain then (assign r.given s v argument).map ({ given := · })
    else .error .misuse
  | none, true => (f.fill r.given argument).map ({ given := ·, divided := true })
  | none, false => f.next r.given argument

def isComplete (f : Form) (r : Reading) : Bool :=
  r.awaiting.isNone &&
    (f.parameters.filter (!·.many)).length ≤ r.given.places.length &&
    f.settings.all fun s => !s.required || r.given.has s.name

def read (f : Form) (arguments : List String) : Except Stop Given := do
  let r ← arguments.foldlM f.step {}
  if f.isComplete r then return r.given else throw .misuse

/-- Read settings up to the first other argument; gives that argument and the rest too. -/
def readHead (f : Form) (r : Reading) : List String → Except Stop (Given × String × List String)
  | [] => .error .misuse
  | a :: rest =>
    if r.awaiting.isNone && !r.divided && Shape.of a = .plain then .ok (r.given, a, rest)
    else do f.readHead (← f.step r a) rest

end Form

end TableSearch.CommandLine
