/-!
# Quoted identifiers

A name in SQL text stands between double quotes, and a quote inside it is written twice. The
quoted form ends where its reader says, whatever follows it but another quote
(`readQuoted?_quoteChars`).
-/
namespace TableSearch.Sql

/-- The inside of a quoted name: each quote twice. -/
def doubleQuotes (cs : List Char) : List Char :=
  cs.flatMap fun c => if c = '"' then ['"', '"'] else [c]

def quoteChars (cs : List Char) : List Char := '"' :: (doubleQuotes cs ++ ['"'])

def quote (name : String) : String := String.ofList (quoteChars name.toList)

/-- Read the rest of a quoted name up to the first quote that is not doubled; gives the name and
what follows it. -/
def readInside? : List Char → Option (List Char × List Char)
  | [] => none
  | '"' :: '"' :: cs => (readInside? cs).map fun (name, rest) => ('"' :: name, rest)
  | '"' :: cs => some ([], cs)
  | c :: cs => (readInside? cs).map fun (name, rest) => (c :: name, rest)

def readQuoted? : List Char → Option (List Char × List Char)
  | '"' :: cs => readInside? cs
  | _ => none

theorem readInside?_doubleQuotes (cs rest : List Char) (h : rest.head? ≠ some '"') :
    readInside? (doubleQuotes cs ++ '"' :: rest) = some (cs, rest) := by
  induction cs with
  | nil =>
    cases rest with
    | nil => rfl
    | cons d ds =>
      have : d ≠ '"' := by simpa using h
      unfold doubleQuotes readInside?
      simp [this]
  | cons c cs ih =>
    have step : doubleQuotes (c :: cs) = (if c = '"' then ['"', '"'] else [c]) ++ doubleQuotes cs :=
      rfl
    rw [step]
    by_cases hc : c = '"'
    · subst hc
      simp [readInside?, ih]
    · simp [hc, readInside?, ih]

theorem readQuoted?_quoteChars (cs rest : List Char) (h : rest.head? ≠ some '"') :
    readQuoted? (quoteChars cs ++ rest) = some (cs, rest) := by
  simp [quoteChars, readQuoted?, readInside?_doubleQuotes cs rest h]

end TableSearch.Sql
