/-!
# Pattern flags and pattern errors

Flags change how the rest of a pattern is read; they hold until the group they were set in ends.
-/
namespace TableSearch.Regex

/-- How a pattern is read. -/
structure Flags where
  /-- `i`: letters match in either case. -/
  ignoreCase : Bool := false
  /-- `m`: `^` and `$` match at lines. -/
  multiLine : Bool := false
  /-- `s`: the point matches line ends too. -/
  dotAll : Bool := false
  /-- `U`: repetitions prefer few copies, and many after `?`. -/
  swapGreed : Bool := false
  /-- `u`: classes and case are those of Unicode, else those of ASCII. -/
  unicode : Bool := true
  /-- `R`: `\r` ends a line as well as `\n`. -/
  anyLineEnd : Bool := false
  /-- `x`: blanks and comments in the pattern are skipped. -/
  verbose : Bool := false
  deriving DecidableEq, Repr, Inhabited

def Flags.set? (f : Flags) (letter : Char) (on : Bool) : Option Flags :=
  match letter with
  | 'i' => some { f with ignoreCase := on }
  | 'm' => some { f with multiLine := on }
  | 's' => some { f with dotAll := on }
  | 'U' => some { f with swapGreed := on }
  | 'u' => some { f with unicode := on }
  | 'R' => some { f with anyLineEnd := on }
  | 'x' => some { f with verbose := on }
  | _ => none

/-- Why a text is no pattern. -/
inductive PatternError where
  | unclosedGroup
  | unopenedGroup
  | badGroupName
  | badFlags
  | lookAround
  | missingOperand
  | badCount
  | badEscape
  | unclosedClass
  | badClassItem
  | badRange
  | unknownClass
  /-- The pattern would match part of an encoded character. -/
  | notText
  | tooDeep
  | tooLarge
  deriving DecidableEq, Repr, Inhabited

end TableSearch.Regex
