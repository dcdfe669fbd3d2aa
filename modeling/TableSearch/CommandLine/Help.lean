import TableSearch.CommandLine.Form
import TableSearch.Report

/-!
# Help texts

The help of a form: what it does, how it is used, and an entry for each parameter and setting. In a
short help the entries stand in two columns; in a long one each text stands under its label. Lines
are filled up to a hundred characters.
-/
namespace TableSearch.CommandLine

def lineWidth : Nat := 100

/-- Words put on lines, after what is on the first. A word that is too long is not cut. -/
def fillLines (width : Nat) (line : String) : List String → List String
  | [] => [line]
  | w :: ws =>
    if width < line.length + 1 + w.length then line :: fillLines width w ws
    else fillLines width (line ++ " " ++ w) ws

/-- The lines of a text, none longer than `width` if that can be. -/
def wrap (width : Nat) (text : String) : List String :=
  (text.splitOn "\n").flatMap fun line =>
    match line.splitOn " " with
    | [] => [""]
    | w :: ws => fillLines width w ws

/-- An entry of a list: a label and a text. -/
structure HelpEntry where
  label : String
  text : String := ""
  /-- What is said after the text. -/
  remark : String := ""
  deriving DecidableEq, Repr, Inhabited

namespace HelpEntry

def whole (e : HelpEntry) (gap : String) : String :=
  if e.text.isEmpty then e.remark
  else if e.remark.isEmpty then e.text
  else e.text ++ gap ++ e.remark

/-- Lines of which all but the first begin with `margin` spaces. -/
def indented (margin : Nat) (lines : List String) : String :=
  ("\n" ++ Report.pad margin "").intercalate lines

def beside (width : Nat) (e : HelpEntry) : String :=
  "  " ++ Report.pad width e.label ++ "  " ++
    indented (width + 4) (wrap (lineWidth - (width + 4)) (e.whole " "))

def under (e : HelpEntry) : String :=
  "  " ++ e.label ++ "\n" ++ Report.pad 10 "" ++
    indented 10 (wrap (lineWidth - 10) (e.whole "\n\n"))

/-- A headed list of entries, if there are any. -/
def list (heading : String) (long : Bool) (entries : List HelpEntry) : List String :=
  let width := entries.foldl (fun n e => max n e.label.length) 2
  if entries.isEmpty then []
  else
    [heading ++ ":\n" ++
      if long then "\n\n".intercalate (entries.map under)
      else "\n".intercalate (entries.map (beside width))]

end HelpEntry

def ValueForm.remark (v : ValueForm) : String :=
  match v.default with
  | none => ""
  | some s => "[default: " ++ s ++ "]"

def ValueForm.pattern (v : ValueForm) : String := "<" ++ v.placeholder ++ ">"

namespace Parameter

def pattern (p : Parameter) : String :=
  if p.many then "[" ++ p.value.placeholder ++ "]..." else p.value.pattern

def entry (p : Parameter) : HelpEntry := ⟨p.pattern, p.help, p.value.remark⟩

end Parameter

namespace Setting

def pattern (s : Setting) : String :=
  "--" ++ s.name ++
    match s.value with
    | none => ""
    | some v => " " ++ v.pattern

def entry (s : Setting) : HelpEntry :=
  ⟨"    " ++ s.pattern, s.help, (s.value.map (·.remark)).getD ""⟩

end Setting

namespace Form

def helpEntry (f : Form) (long : Bool) : HelpEntry where
  label := "-h, --help"
  text :=
    if f.details.isNone then "Print help"
    else if long then "Print help (see a summary with '-h')"
    else "Print help (see more with '--help')"

def versionEntry : HelpEntry := { label := "-V, --version", text := "Print version" }

def entries (f : Form) (long : Bool) : List HelpEntry :=
  f.settings.map (·.entry) ++ [f.helpEntry long] ++
    if f.version.isSome then [versionEntry] else []

def usage (f : Form) (program : List String) (rest : List String) : String :=
  " ".intercalate (["Usage:"] ++ program ++ ["[OPTIONS]"] ++
    (f.settings.filter (·.required)).map (·.pattern) ++ f.parameters.map (·.pattern) ++ rest)

/-- The help of a form; `program` are the words that lead to it, and `commands` those that may
follow. -/
def help (f : Form) (program : List String) (commands : List HelpEntry) (long : Bool) : String :=
  let long := long && f.details.isSome
  let about := if long then f.details.getD f.summary else f.summary
  let rest := if commands.isEmpty then [] else ["<COMMAND>"]
  "\n\n".intercalate
    (["\n".intercalate (wrap lineWidth about), f.usage program rest] ++
      HelpEntry.list "Commands" false commands ++
      HelpEntry.list "Arguments" long (f.parameters.map (·.entry)) ++
      HelpEntry.list "Options" long (f.entries long)) ++ "\n"

end Form

end TableSearch.CommandLine
