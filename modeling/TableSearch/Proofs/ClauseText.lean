import Mathlib.Data.List.Forall2
import TableSearch.Proofs.LikeOperand
import TableSearch.Proofs.QuotedName

/-!
# Clauses read from their text

A clause is a text with question marks, and a list of values. The text is read without the values:
into words, where the question marks are numbered from the left, and from these into predicates.
Main statement: what is read from the text of a clause are the predicates of its terms, each term
having the numbers after those of the terms before it (`readClause?_text`).
-/
namespace TableSearch.Sql

/-- The words with a meaning of their own. -/
inductive Keyword where
  | WHERE
  | AND
  | BETWEEN
  | NOT
  | IN
  | LIKE
  | ESCAPE
  deriving DecidableEq, Repr

def Keyword.chars : Keyword → List Char
  | WHERE => ['W', 'H', 'E', 'R', 'E']
  | AND => ['A', 'N', 'D']
  | BETWEEN => ['B', 'E', 'T', 'W', 'E', 'E', 'N']
  | NOT => ['N', 'O', 'T']
  | IN => ['I', 'N']
  | LIKE => ['L', 'I', 'K', 'E']
  | ESCAPE => ['E', 'S', 'C', 'A', 'P', 'E']

/-- What a clause is written with. -/
inductive Lexeme where
  | keyword (k : Keyword)
  | number (n : Nat)
  /-- A quoted name. -/
  | name (s : String)
  /-- A text between apostrophes. -/
  | literal (cs : List Char)
  | comparison (c : Comparison)
  /-- A question mark, with the number of those before it. -/
  | parameter (i : Nat)
  | opening
  | closing
  | comma
  deriving DecidableEq, Repr

/-- A word that is a number or a keyword, in letters of either case. -/
def Lexeme.ofWord? (word : List Char) : Option Lexeme :=
  match Text.readNat? word with
  | some n => some (.number n)
  | none =>
    ([.WHERE, .AND, .BETWEEN, .NOT, .IN, .LIKE, .ESCAPE].find? fun k : Keyword =>
      k.chars == word.map Char.toUpper).map .keyword

/-- Read the rest of what two marks enclose, up to the first mark that is not doubled; gives the
text and what follows it. -/
def readEnclosed? (mark : Char) : List Char → Option (List Char × List Char)
  | [] => none
  | c :: cs =>
    if c = mark then
      match cs with
      | [] => some ([], [])
      | d :: ds =>
        if d = mark then (readEnclosed? mark ds).map fun (text, rest) => (mark :: text, rest)
        else some ([], d :: ds)
    else (readEnclosed? mark cs).map fun (text, rest) => (c :: text, rest)

theorem length_of_readEnclosed? {mark : Char} {cs text rest : List Char}
    (h : readEnclosed? mark cs = some (text, rest)) : rest.length < cs.length := by
  fun_induction readEnclosed? mark cs generalizing text rest with
  | case1 => cases h
  | case2 => cases h; exact Nat.lt_succ_self _
  | case3 cs ih =>
    obtain ⟨⟨_, _⟩, hread, he⟩ := Option.map_eq_some_iff.mp h
    cases he
    exact Nat.lt_succ_of_lt (Nat.lt_succ_of_lt (ih hread))
  | case4 d ds hd => cases h; exact Nat.lt_succ_self _
  | case5 c cs hc ih =>
    obtain ⟨⟨_, _⟩, hread, he⟩ := Option.map_eq_some_iff.mp h
    cases he
    exact Nat.lt_succ_of_lt (ih hread)

theorem readEnclosed?_quote (cs : List Char) : readEnclosed? '"' cs = readInside? cs := by
  fun_induction readInside? cs with
  | case1 => rfl
  | case2 cs ih => simp [readEnclosed?, ih]
  | case3 cs hcs =>
    cases cs with
    | nil => rfl
    | cons d ds =>
      have hd : d ≠ '"' := fun hd => hcs ds (hd ▸ rfl)
      simp [readEnclosed?, hd]
  | case4 c cs hnext hc ih =>
    rw [readEnclosed?.eq_def]
    dsimp only
    rw [if_neg hc, ih]

/-- Read a text into words, the question marks being numbered from `n`. -/
def lexemes? (n : Nat) : List Char → Option (List Lexeme)
  | [] => some []
  | c :: cs =>
    if c.isAlphanum then
      match Lexeme.ofWord? (c :: cs.takeWhile Char.isAlphanum) with
      | none => none
      | some l => (lexemes? n (cs.dropWhile Char.isAlphanum)).map (l :: ·)
    else
      match c, cs with
      | ' ', cs => lexemes? n cs
      | '?', cs => (lexemes? (n + 1) cs).map (.parameter n :: ·)
      | '(', cs => (lexemes? n cs).map (.opening :: ·)
      | ')', cs => (lexemes? n cs).map (.closing :: ·)
      | ',', cs => (lexemes? n cs).map (.comma :: ·)
      | '=', cs => (lexemes? n cs).map (.comparison .equal :: ·)
      | '<', '>' :: cs => (lexemes? n cs).map (.comparison .different :: ·)
      | '<', cs => (lexemes? n cs).map (.comparison .less :: ·)
      | '>', cs => (lexemes? n cs).map (.comparison .greater :: ·)
      | '"', cs =>
        match _h : readEnclosed? '"' cs with
        | none => none
        | some (name, rest) => (lexemes? n rest).map (.name (String.ofList name) :: ·)
      | '\'', cs =>
        match _h : readEnclosed? '\'' cs with
        | none => none
        | some (text, rest) => (lexemes? n rest).map (.literal text :: ·)
      | _, _ => none
termination_by cs => cs.length
decreasing_by
  all_goals first
    | exact Nat.lt_succ_of_le (List.dropWhile_sublist _).length_le
    | exact Nat.lt_succ_of_lt (length_of_readEnclosed? _h)
    | exact Nat.lt_succ_of_lt (Nat.lt_succ_self _)
    | exact Nat.lt_succ_self _

/-- What a predicate is about. -/
inductive Operand where
  | column (name : String)
  | parameter (i : Nat)
  | number (n : Nat)
  deriving DecidableEq, Repr

/-- A predicate of a clause. -/
inductive Predicate where
  | compare (a : Operand) (c : Comparison) (b : Operand)
  | between (a low high : Operand)
  | member (a : Operand) (values : List Operand) (negate : Bool)
  | like (a pattern : Operand) (escape : Char) (negate : Bool)
  deriving DecidableEq, Repr

def Operand.ofLexeme? : Lexeme → Option Operand
  | .name s => some (.column s)
  | .parameter i => some (.parameter i)
  | .number n => some (.number n)
  | _ => none

/-- Read the operands of a list up to its closing parenthesis; gives what follows them. -/
def operands? : List Lexeme → Option (List Operand × List Lexeme)
  | x :: .closing :: rest => (Operand.ofLexeme? x).map fun a => ([a], rest)
  | x :: .comma :: ls =>
    match Operand.ofLexeme? x, operands? ls with
    | some a, some (as, rest) => some (a :: as, rest)
    | _, _ => none
  | _ => none

/-- Read what follows the first operand of a predicate; gives the predicate and what follows it. -/
def predicateOf? (a : Operand) : List Lexeme → Option (Predicate × List Lexeme)
  | .comparison c :: x :: rest => (Operand.ofLexeme? x).map fun b => (.compare a c b, rest)
  | .keyword .BETWEEN :: x :: .keyword .AND :: y :: rest =>
    match Operand.ofLexeme? x, Operand.ofLexeme? y with
    | some low, some high => some (.between a low high, rest)
    | _, _ => none
  | .keyword .IN :: .opening :: ls =>
    (operands? ls).map fun (values, rest) => (.member a values false, rest)
  | .keyword .NOT :: .keyword .IN :: .opening :: ls =>
    (operands? ls).map fun (values, rest) => (.member a values true, rest)
  | .keyword .LIKE :: x :: .keyword .ESCAPE :: .literal [e] :: rest =>
    (Operand.ofLexeme? x).map fun pattern => (.like a pattern e false, rest)
  | .keyword .NOT :: .keyword .LIKE :: x :: .keyword .ESCAPE :: .literal [e] :: rest =>
    (Operand.ofLexeme? x).map fun pattern => (.like a pattern e true, rest)
  | _ => none

/-- Read a predicate; gives what follows it. -/
def predicate? : List Lexeme → Option (Predicate × List Lexeme)
  | x :: ls => (Operand.ofLexeme? x).bind fun a => predicateOf? a ls
  | [] => none

/-- Read predicates between which there is an AND. -/
def conjunction? (ls : List Lexeme) : Option (List Predicate) :=
  match predicate? ls with
  | some (p, []) => some [p]
  | some (p, .keyword .AND :: rest) =>
    if rest.length < ls.length then (conjunction? rest).map (p :: ·) else none
  | _ => none
termination_by ls.length

def readClause? (text : String) : Option (List Predicate) :=
  match lexemes? 0 text.toList with
  | some [] => some []
  | some (.keyword .WHERE :: ls) => conjunction? ls
  | _ => none

section Words

variable {n : Nat} {cs rest : List Char}

@[simp] theorem lexemes?_nil : lexemes? n [] = some [] := by
  rw [lexemes?]

@[simp] theorem lexemes?_space : lexemes? n (' ' :: cs) = lexemes? n cs := by
  rw [lexemes?, if_neg (by decide)]

@[simp] theorem lexemes?_parameter :
    lexemes? n ('?' :: cs) = (lexemes? (n + 1) cs).map (.parameter n :: ·) := by
  rw [lexemes?, if_neg (by decide)]

@[simp] theorem lexemes?_opening :
    lexemes? n ('(' :: cs) = (lexemes? n cs).map (.opening :: ·) := by
  rw [lexemes?, if_neg (by decide)]

@[simp] theorem lexemes?_closing :
    lexemes? n (')' :: cs) = (lexemes? n cs).map (.closing :: ·) := by
  rw [lexemes?, if_neg (by decide)]

@[simp] theorem lexemes?_comma :
    lexemes? n (',' :: cs) = (lexemes? n cs).map (.comma :: ·) := by
  rw [lexemes?, if_neg (by decide)]

theorem lexemes?_operator (c : Comparison) :
    lexemes? n ((operator c).toList ++ ' ' :: cs) =
      (lexemes? n cs).map (.comparison c :: ·) := by
  cases c with
  | equal =>
    change lexemes? n ('=' :: ' ' :: cs) = _
    rw [lexemes?, if_neg (by decide), lexemes?_space]
  | different =>
    change lexemes? n ('<' :: '>' :: ' ' :: cs) = _
    rw [lexemes?, if_neg (by decide), lexemes?_space]
  | greater =>
    change lexemes? n ('>' :: ' ' :: cs) = _
    rw [lexemes?, if_neg (by decide), lexemes?_space]
  | less =>
    change lexemes? n ('<' :: ' ' :: cs) = _
    rw [lexemes?, if_neg (by decide), lexemes?_space]
    rintro _ ⟨⟩

theorem lexemes?_name (h : rest.head? ≠ some '"') :
    lexemes? n (quoteChars cs ++ rest) = (lexemes? n rest).map (.name (String.ofList cs) :: ·) := by
  have hread : readEnclosed? '"' (doubleQuotes cs ++ ['"'] ++ rest) = some (cs, rest) := by
    rw [readEnclosed?_quote]
    exact readInside?_closed h
  rw [quoteChars, List.cons_append, lexemes?, if_neg (by decide)]
  split
  · rename_i hnone
    rw [hread] at hnone
    cases hnone
  · rename_i hsome
    rw [hread] at hsome
    cases hsome
    rfl

theorem lexemes?_escape (h : rest.head? ≠ some '\'') :
    lexemes? n ('\'' :: '\\' :: '\'' :: rest) = (lexemes? n rest).map (.literal ['\\'] :: ·) := by
  have hread : readEnclosed? '\'' ('\\' :: '\'' :: rest) = some (['\\'], rest) := by
    cases rest with
    | nil => simp [readEnclosed?]
    | cons c cs =>
      have hc : c ≠ '\'' := by simpa using h
      simp [readEnclosed?, hc]
  rw [lexemes?, if_neg (by decide)]
  split
  · rename_i hnone
    rw [hread] at hnone
    cases hnone
  · rename_i hsome
    rw [hread] at hsome
    cases hsome
    rfl

theorem lexemes?_word {word : List Char} {l : Lexeme} (hl : Lexeme.ofWord? word = some l)
    (hne : word ≠ []) (hword : word.all Char.isAlphanum = true)
    (hrest : rest.head?.all (!·.isAlphanum) = true) :
    lexemes? n (word ++ rest) = (lexemes? n rest).map (l :: ·) := by
  obtain ⟨c, word, rfl⟩ := List.exists_cons_of_ne_nil hne
  obtain ⟨hfirst, hothers⟩ := List.forall_mem_cons.mp (List.all_eq_true.mp hword)
  have hends : rest.takeWhile Char.isAlphanum = [] ∧ rest.dropWhile Char.isAlphanum = rest := by
    cases rest with
    | nil => exact ⟨rfl, rfl⟩
    | cons d ds =>
      have hd : d.isAlphanum = false := by simpa using hrest
      simp [hd]
  rw [List.cons_append, lexemes?.eq_def]
  dsimp only
  rw [if_pos hfirst, List.takeWhile_append_of_pos hothers, List.dropWhile_append_of_pos hothers,
    hends.1, hends.2, List.append_nil, hl]

theorem lexemes?_keyword (k : Keyword) (hrest : rest.head?.all (!·.isAlphanum) = true) :
    lexemes? n (k.chars ++ rest) = (lexemes? n rest).map (.keyword k :: ·) := by
  refine lexemes?_word ?_ ?_ ?_ hrest
  · cases k <;> decide
  · cases k <;> decide
  · cases k <;> decide

end Words

section Printing

def Operand.lexeme : Operand → Lexeme
  | column s => .name s
  | parameter i => .parameter i
  | number n => .number n

@[simp] theorem Operand.ofLexeme?_lexeme (a : Operand) : ofLexeme? a.lexeme = some a := by
  cases a <;> rfl

/-- The words of a list of operands, up to its closing parenthesis. -/
def listLexemes : List Operand → List Lexeme
  | [] => [.closing]
  | [a] => [a.lexeme, .closing]
  | a :: b :: as => a.lexeme :: .comma :: listLexemes (b :: as)

def negationLexemes (negate : Bool) : List Lexeme := if negate then [.keyword .NOT] else []

def Predicate.lexemes : Predicate → List Lexeme
  | compare a c b => [a.lexeme, .comparison c, b.lexeme]
  | between a low high =>
    [a.lexeme, .keyword .BETWEEN, low.lexeme, .keyword .AND, high.lexeme]
  | member a values negate =>
    a.lexeme :: (negationLexemes negate ++ .keyword .IN :: .opening :: listLexemes values)
  | like a pattern e negate =>
    a.lexeme :: (negationLexemes negate ++
      [.keyword .LIKE, pattern.lexeme, .keyword .ESCAPE, .literal [e]])

def conjunctionLexemes : List Predicate → List Lexeme
  | [] => []
  | [p] => p.lexemes
  | p :: q :: ps => p.lexemes ++ .keyword .AND :: conjunctionLexemes (q :: ps)

/-- Whether a predicate can be read back: a list of no values has no words. -/
def Predicate.IsWritten : Predicate → Prop
  | member _ values _ => values ≠ []
  | _ => True

theorem operands?_listLexemes {as : List Operand} (h : as ≠ []) (rest : List Lexeme) :
    operands? (listLexemes as ++ rest) = some (as, rest) := by
  induction as with
  | nil => exact absurd rfl h
  | cons a as ih =>
    cases as with
    | nil => simp [listLexemes, operands?]
    | cons b as =>
      have hrest := ih (List.cons_ne_nil b as)
      simp [listLexemes, operands?, hrest]

theorem predicate?_lexemes {p : Predicate} (h : p.IsWritten) (rest : List Lexeme) :
    predicate? (p.lexemes ++ rest) = some (p, rest) := by
  cases p with
  | compare a c b => simp [Predicate.lexemes, predicate?, predicateOf?]
  | between a low high => simp [Predicate.lexemes, predicate?, predicateOf?]
  | member a values negate =>
    have hvalues := operands?_listLexemes h rest
    cases negate <;>
      simp [Predicate.lexemes, negationLexemes, predicate?, predicateOf?, hvalues]
  | like a pattern e negate =>
    cases negate <;> simp [Predicate.lexemes, negationLexemes, predicate?, predicateOf?]

theorem conjunction?_lexemes {ps : List Predicate} (hne : ps ≠ []) (h : ∀ p ∈ ps, p.IsWritten) :
    conjunction? (conjunctionLexemes ps) = some ps := by
  induction ps with
  | nil => exact absurd rfl hne
  | cons p ps ih =>
    have hp : p.IsWritten := h p List.mem_cons_self
    cases ps with
    | nil =>
      have hread := predicate?_lexemes hp []
      rw [List.append_nil] at hread
      rw [conjunctionLexemes, conjunction?, hread]
    | cons q ps =>
      have hrest := ih (List.cons_ne_nil q ps) fun p hp => h p (List.mem_cons_of_mem _ hp)
      rw [conjunctionLexemes, conjunction?, predicate?_lexemes hp]
      dsimp only
      rw [if_pos (by simp; omega), hrest]
      rfl

end Printing

section Terms

/-- The number of question marks of a term. -/
def Term.arity : Term → Nat
  | compare .. => 1
  | between _ => 2
  | member _ count _ => count
  | like .. => 1
  | constant _ => 0

def parameters (n : Nat) : Nat → List Operand
  | 0 => []
  | count + 1 => .parameter n :: parameters (n + 1) count

/-- What a term says, its question marks being numbered from `n`. -/
def Term.predicate (n : Nat) : Term → Predicate
  | compare column c => .compare (.column column) c (.parameter n)
  | between column => .between (.column column) (.parameter n) (.parameter (n + 1))
  | member column count negate => .member (.column column) (parameters n count) negate
  | like column negate => .like (.column column) (.parameter n) LikePattern.escapeChar negate
  | constant truth => .compare (.number 1) .equal (.number (if truth then 1 else 0))

/-- What the terms of a clause say, their question marks being numbered from `n`. -/
def Clause.predicates (n : Nat) : Clause → List Predicate
  | [] => []
  | b :: bs => b.term.predicate n :: predicates (n + b.term.arity) bs

theorem placeholders_succ (count : Nat) :
    (placeholders (count + 2)).toList = '?' :: ',' :: ' ' :: (placeholders (count + 1)).toList := by
  simp [placeholders, List.replicate_succ]

theorem lexemes?_placeholders (n count : Nat) (rest : List Char) :
    lexemes? n ((placeholders count).toList ++ ')' :: rest) =
      (lexemes? (n + count) rest).map (listLexemes (parameters n count) ++ ·) := by
  cases count with
  | zero =>
    change lexemes? n (')' :: rest) = _
    simp [parameters, listLexemes]
  | succ count =>
    induction count generalizing n with
    | zero =>
      change lexemes? n ('?' :: ')' :: rest) = _
      simp [parameters, listLexemes, Operand.lexeme, Function.comp_def]
    | succ count ih =>
      rw [placeholders_succ, List.cons_append, List.cons_append, List.cons_append,
        lexemes?_parameter, lexemes?_comma, lexemes?_space, ih]
      simp [parameters, listLexemes, Operand.lexeme, Function.comp_def, Nat.add_assoc,
        Nat.add_comm 1]

theorem lexemes?_negated (n : Nat) (negate : Bool) (k : Keyword) (cs : List Char) :
    lexemes? n ((negation negate).toList ++ (k.chars ++ ' ' :: cs)) =
      (lexemes? n cs).map (negationLexemes negate ++ .keyword k :: ·) := by
  cases negate with
  | false =>
    change lexemes? n (k.chars ++ ' ' :: cs) = _
    rw [lexemes?_keyword k rfl, lexemes?_space]
    rfl
  | true =>
    change lexemes? n (Keyword.NOT.chars ++ ' ' :: (k.chars ++ ' ' :: cs)) = _
    rw [lexemes?_keyword _ rfl, lexemes?_space, lexemes?_keyword k rfl,
      lexemes?_space, Option.map_map]
    rfl

/-- The text of a term is read into the words of what it says. -/
theorem lexemes?_text (n : Nat) (t : Term) {rest : List Char}
    (hrest : rest.head?.all (· == ' ') = true) :
    lexemes? n (t.text.toList ++ rest) =
      (lexemes? (n + t.arity) rest).map ((t.predicate n).lexemes ++ ·) := by
  have hquote : ∀ cs : List Char, (' ' :: cs).head? ≠ some '"' := by simp
  cases t with
  | compare column c =>
    have htext : (Term.compare column c).text.toList ++ rest =
        quoteChars column.toList ++ ' ' :: ((operator c).toList ++ ' ' :: '?' :: rest) := by
      simp [Term.text, quote]
    rw [htext, lexemes?_name (hquote _), lexemes?_space, lexemes?_operator, lexemes?_parameter]
    simp [Function.comp_def, Term.predicate, Predicate.lexemes, Operand.lexeme, Term.arity]
  | between column =>
    have htext : (Term.between column).text.toList ++ rest =
        quoteChars column.toList ++ ' ' :: (Keyword.BETWEEN.chars ++ ' ' :: '?' :: ' ' ::
          (Keyword.AND.chars ++ ' ' :: '?' :: rest)) := by
      simp [Term.text, quote, Keyword.chars]
    rw [htext, lexemes?_name (hquote _), lexemes?_space, lexemes?_keyword _ rfl,
      lexemes?_space, lexemes?_parameter, lexemes?_space, lexemes?_keyword _ rfl,
      lexemes?_space, lexemes?_parameter]
    simp [Function.comp_def, Term.predicate, Predicate.lexemes, Operand.lexeme, Term.arity]
  | member column count negate =>
    have htext : (Term.member column count negate).text.toList ++ rest =
        quoteChars column.toList ++ ' ' :: ((negation negate).toList ++ (Keyword.IN.chars ++ ' ' ::
          '(' :: ((placeholders count).toList ++ ')' :: rest))) := by
      simp [Term.text, quote, Keyword.chars]
    rw [htext, lexemes?_name (hquote _), lexemes?_space, lexemes?_negated, lexemes?_opening,
      lexemes?_placeholders]
    simp [Function.comp_def, Term.predicate, Predicate.lexemes, Operand.lexeme, Term.arity]
  | like column negate =>
    have htext : (Term.like column negate).text.toList ++ rest =
        quoteChars column.toList ++ ' ' :: ((negation negate).toList ++ (Keyword.LIKE.chars ++
          ' ' :: '?' :: ' ' :: (Keyword.ESCAPE.chars ++ ' ' :: '\'' :: '\\' :: '\'' :: rest))) := by
      simp [Term.text, quote, Keyword.chars]
    have hliteral : rest.head? ≠ some '\'' := by
      cases rest with
      | nil => simp
      | cons c cs =>
        have hc : c = ' ' := by simpa using hrest
        simp [hc]
    rw [htext, lexemes?_name (hquote _), lexemes?_space, lexemes?_negated, lexemes?_parameter,
      lexemes?_space, lexemes?_keyword _ rfl, lexemes?_space, lexemes?_escape hliteral]
    simp [Function.comp_def, Term.predicate, Predicate.lexemes, Operand.lexeme, Term.arity,
      LikePattern.escapeChar]
  | constant truth =>
    have hword : rest.head?.all (!·.isAlphanum) = true := by
      cases rest with
      | nil => rfl
      | cons c cs =>
        have hc : c = ' ' := by simpa using hrest
        rw [hc]
        rfl
    have hone : Lexeme.ofWord? ['1'] = some (.number 1) := by decide
    have hdigit {d : Char} {m : Nat} (hd : Lexeme.ofWord? [d] = some (.number m))
        (halnum : d.isAlphanum = true) :
        lexemes? n (['1'] ++ ' ' :: '=' :: ' ' :: ([d] ++ rest)) = (lexemes? n rest).map
          ([.number 1, .comparison .equal, .number m] ++ ·) := by
      rw [lexemes?_word hone (by decide) (by decide) rfl, lexemes?_space]
      change ((lexemes? n ((operator .equal).toList ++ ' ' :: ([d] ++ rest)))).map _ = _
      rw [lexemes?_operator, lexemes?_word hd (by simp) (by simpa using halnum) hword]
      simp [Function.comp_def]
    cases truth with
    | false =>
      change lexemes? n (['1'] ++ ' ' :: '=' :: ' ' :: (['0'] ++ rest)) = _
      exact hdigit (by decide) (by decide)
    | true =>
      change lexemes? n (['1'] ++ ' ' :: '=' :: ' ' :: (['1'] ++ rest)) = _
      exact hdigit (by decide) (by decide)

/-- Whether a term has a value for each of its question marks; a list has at least one. -/
structure BoundTerm.IsFull (b : BoundTerm) : Prop where
  values : b.values.length = b.term.arity
  some : ∀ column negate, b.term ≠ .member column 0 negate

theorem BoundTerm.isFull_of_condition {c : Condition} {b : BoundTerm}
    (h : BoundTerm.ofCondition? c = some b) : b.IsFull := by
  cases c with
  | compare column comparison value =>
    cases h
    exact ⟨rfl, nofun⟩
  | between column low high =>
    cases h
    exact ⟨rfl, nofun⟩
  | member column values negate =>
    cases values with
    | nil =>
      cases h
      exact ⟨rfl, nofun⟩
    | cons v vs =>
      cases h
      exact ⟨rfl, nofun⟩
  | like column pattern negate =>
    cases h
    exact ⟨rfl, nofun⟩
  | regex column pattern matcher negate => cases h

theorem BoundTerm.exists_ofCondition? {c : Condition} (h : c.isNative = true) :
    ∃ b, BoundTerm.ofCondition? c = some b := by
  cases c with
  | compare column comparison value => exact ⟨_, rfl⟩
  | between column low high => exact ⟨_, rfl⟩
  | member column values negate => cases values <;> exact ⟨_, rfl⟩
  | like column pattern negate => exact ⟨_, rfl⟩
  | regex column pattern matcher negate => cases h

theorem Clause.exists_ofConditions {conditions : List Condition}
    (h : ∀ c ∈ conditions, c.isNative = true) :
    ∃ clause, Clause.ofConditions conditions = .ok clause ∧
      List.Forall₂ (fun c b => BoundTerm.ofCondition? c = some b) conditions clause := by
  induction conditions with
  | nil => exact ⟨[], rfl, .nil⟩
  | cons c cs ih =>
    obtain ⟨hc, hcs⟩ := List.forall_mem_cons.mp h
    obtain ⟨b, hb⟩ := BoundTerm.exists_ofCondition? hc
    obtain ⟨clause, hclause, hterms⟩ := ih hcs
    refine ⟨b :: clause, ?_, .cons hb hterms⟩
    rw [Clause.ofConditions, hb, hclause]
    rfl

theorem Clause.isFull_of_conditions {conditions : List Condition} {clause : Clause}
    (h : List.Forall₂ (fun c b => BoundTerm.ofCondition? c = some b) conditions clause) :
    ∀ b ∈ clause, b.IsFull := by
  induction h with
  | nil => nofun
  | cons hb _ ih => exact List.forall_mem_cons.mpr ⟨BoundTerm.isFull_of_condition hb, ih⟩

theorem BoundTerm.IsFull.isWritten {b : BoundTerm} (h : b.IsFull) (n : Nat) :
    (b.term.predicate n).IsWritten := by
  have hsome := h.some
  cases hterm : b.term with
  | member column count negate =>
    cases count with
    | zero => exact absurd hterm (hsome column negate)
    | succ count => exact List.cons_ne_nil _ _
  | compare column c => trivial
  | between column => trivial
  | like column negate => trivial
  | constant truth => trivial

theorem Clause.isWritten_of_mem {clause : Clause} (h : ∀ b ∈ clause, b.IsFull) (n : Nat) :
    ∀ p ∈ clause.predicates n, p.IsWritten := by
  induction clause generalizing n with
  | nil => nofun
  | cons b bs ih =>
    intro p hp
    rcases List.mem_cons.mp hp with rfl | hp
    · exact (h b List.mem_cons_self).isWritten n
    · exact ih (fun b hb => h b (List.mem_cons_of_mem _ hb)) _ p hp

theorem lexemes?_conjunction (n : Nat) (clause : Clause) :
    lexemes? n (" AND ".intercalate (clause.map (·.term.text))).toList =
      some (conjunctionLexemes (clause.predicates n)) := by
  induction clause generalizing n with
  | nil => simp [conjunctionLexemes, Clause.predicates]
  | cons b bs ih =>
    cases bs with
    | nil =>
      have hread := @lexemes?_text n b.term [] rfl
      simpa [conjunctionLexemes, Clause.predicates] using hread
    | cons b' bs =>
      have htext : (" AND ".intercalate ((b :: b' :: bs).map (·.term.text))).toList =
          b.term.text.toList ++ ' ' :: (Keyword.AND.chars ++ ' ' ::
            (" AND ".intercalate ((b' :: bs).map (·.term.text))).toList) := by
        simp [Keyword.chars]
      rw [htext, lexemes?_text n b.term rfl, lexemes?_space, lexemes?_keyword _ rfl,
        lexemes?_space, ih]
      rfl

/-- The text of a clause is read into what its terms say. -/
theorem readClause?_text {clause : Clause} (h : ∀ b ∈ clause, b.IsFull) :
    readClause? clause.text = some (clause.predicates 0) := by
  cases clause with
  | nil => simp [readClause?, Clause.text, Clause.predicates]
  | cons b bs =>
    have htext : (Clause.text (b :: bs)).toList = Keyword.WHERE.chars ++ ' ' ::
        (" AND ".intercalate ((b :: bs).map (·.term.text))).toList := by
      simp [Clause.text, Keyword.chars]
    have hread := conjunction?_lexemes (List.cons_ne_nil _ _) (Clause.isWritten_of_mem h 0)
    rw [readClause?, htext, lexemes?_keyword _ rfl, lexemes?_space, lexemes?_conjunction]
    exact hread

end Terms

end TableSearch.Sql
