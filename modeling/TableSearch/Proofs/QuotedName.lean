import Mathlib.Logic.Function.Defs
import TableSearch.Sql.Table

/-!
# Quoted names

A reader of quoted names takes exactly what quoting writes, up to a quote that no other quote
follows. So a name ends at its closing quote, whatever quotes it has inside, and the text of a
condition says the same of every column after the name (`quote_selfDelimiting`).
-/
namespace TableSearch

namespace Sql

section Reading

variable {cs name rest : List Char}

theorem doubleQuotes_cons (c : Char) (cs : List Char) :
    doubleQuotes (c :: cs) = (if c = '"' then ['"', '"'] else [c]) ++ doubleQuotes cs := rfl

theorem eq_of_readInside? (h : readInside? cs = some (name, rest)) :
    cs = doubleQuotes name ++ '"' :: rest ∧ rest.head? ≠ some '"' := by
  fun_induction readInside? cs generalizing name rest with
  | case1 => cases h
  | case2 cs ih =>
    obtain ⟨⟨_, _⟩, hread, he⟩ := Option.map_eq_some_iff.mp h
    cases he
    obtain ⟨rfl, hrest⟩ := ih hread
    exact ⟨rfl, hrest⟩
  | case3 cs hcs =>
    cases h
    refine ⟨rfl, ?_⟩
    intro hhead
    obtain ⟨ds, rfl⟩ := List.head?_eq_some_iff.mp hhead
    exact hcs ds rfl
  | case4 c cs _ hc ih =>
    obtain ⟨⟨_, _⟩, hread, he⟩ := Option.map_eq_some_iff.mp h
    cases he
    obtain ⟨rfl, hrest⟩ := ih hread
    rw [doubleQuotes_cons, if_neg hc]
    exact ⟨rfl, hrest⟩

theorem readInside?_closed (h : rest.head? ≠ some '"') :
    readInside? (doubleQuotes name ++ ['"'] ++ rest) = some (name, rest) := by
  rw [List.append_assoc]
  exact readInside?_doubleQuotes name rest h

/-- The reader takes exactly what quoting writes. -/
theorem readQuoted?_eq_some_iff :
    readQuoted? cs = some (name, rest) ↔ cs = quoteChars name ++ rest ∧ rest.head? ≠ some '"' := by
  constructor
  · intro h
    unfold readQuoted? at h
    split at h
    · obtain ⟨rfl, hrest⟩ := eq_of_readInside? h
      simp [quoteChars, hrest]
    · cases h
  · rintro ⟨rfl, hrest⟩
    exact readQuoted?_quoteChars name rest hrest

theorem toList_quote (name : String) : (quote name).toList = quoteChars name.toList :=
  String.toList_ofList

theorem quoteChars_injective : Function.Injective quoteChars := by
  intro a b h
  have hread (cs : List Char) : readQuoted? (quoteChars cs) = some (cs, []) := by
    rw [readQuoted?_eq_some_iff, List.append_nil]
    exact ⟨rfl, nofun⟩
  have hb := hread b
  rw [← h, hread a] at hb
  cases hb
  rfl

end Reading

def Term.body : Term → String
  | compare _ comparison => " " ++ operator comparison ++ " ?"
  | between _ => " BETWEEN ? AND ?"
  | member _ count negate => " " ++ negation negate ++ "IN (" ++ placeholders count ++ ")"
  | like _ negate => " " ++ negation negate ++ "LIKE ? ESCAPE '\\'"
  | constant true => "1 = 1"
  | constant false => "1 = 0"

theorem Term.toList_text (t : Term) :
    t.text.toList = (t.column?.elim [] fun column => quoteChars column.toList) ++ t.body.toList := by
  cases t with
  | constant truth => cases truth <;> rfl
  | _ => simp [text, column?, body, toList_quote]

theorem Term.head?_body {t : Term} {column : String} (h : t.column? = some column) :
    t.body.toList.head? = some ' ' := by
  cases t with
  | constant truth => cases h
  | _ => simp [body]

theorem Term.readQuoted?_text {t : Term} {column : String} (h : t.column? = some column)
    (rest : List Char) :
    readQuoted? (t.text.toList ++ rest) = some (column.toList, t.body.toList ++ rest) := by
  rw [readQuoted?_eq_some_iff, toList_text, h, Option.elim_some, List.append_assoc,
    List.head?_append, head?_body h]
  exact ⟨rfl, by simp⟩

end Sql

open Sql

def Condition.onColumn (name : String) : Condition → Condition
  | compare _ comparison value => compare name comparison value
  | between _ low high => between name low high
  | member _ values negate => member name values negate
  | like _ pattern negate => like name pattern negate
  | regex _ pattern matcher negate => regex name pattern matcher negate

def Condition.sql? (c : Condition) : Option (List Char) :=
  (BoundTerm.ofCondition? c).map (·.term.text.toList)

section Conditions

variable {c : Condition}

/-- The text of a condition for any column is read as the column and then `body`. -/
def Condition.NamesColumn (c : Condition) (body : List Char) : Prop :=
  ∀ name : String, ∃ text, (c.onColumn name).sql? = some text ∧
    ∀ rest, readQuoted? (text ++ rest) = some (name.toList, body ++ rest)

theorem Condition.namesColumn_of_terms {body : String}
    (h : ∀ name, ∃ b, BoundTerm.ofCondition? (c.onColumn name) = some b ∧
      b.term.column? = some name ∧ b.term.body = body) : c.NamesColumn body.toList := by
  intro name
  obtain ⟨b, hb, hcolumn, rfl⟩ := h name
  refine ⟨b.term.text.toList, ?_, Term.readQuoted?_text hcolumn⟩
  rw [sql?, hb, Option.map_some]

/-- Every condition with a text names its column in it, but for membership in no values. -/
theorem Condition.exists_namesColumn (h : c.isNative = true)
    (hmember : ∀ column negate, c ≠ .member column [] negate) : ∃ body, c.NamesColumn body := by
  cases c with
  | compare column comparison value =>
    exact ⟨_, namesColumn_of_terms fun name => ⟨_, rfl, rfl, rfl⟩⟩
  | between column low high => exact ⟨_, namesColumn_of_terms fun name => ⟨_, rfl, rfl, rfl⟩⟩
  | member column values negate =>
    cases values with
    | nil => exact absurd rfl (hmember column negate)
    | cons v vs => exact ⟨_, namesColumn_of_terms fun name => ⟨_, rfl, rfl, rfl⟩⟩
  | like column pattern negate => exact ⟨_, namesColumn_of_terms fun name => ⟨_, rfl, rfl, rfl⟩⟩
  | regex column pattern matcher negate => cases h

end Conditions

/-- A quoted name is read back, and whatever follows it but a quote is left; nothing else is read as
a name, so different names are quoted differently. The text of a condition that names its column
is read as the column, and what is left of it is the same for all columns. -/
theorem quote_selfDelimiting :
    (∀ (name : String) (rest : List Char), rest.head? ≠ some '"' →
      readQuoted? ((quote name).toList ++ rest) = some (name.toList, rest)) ∧
    (∀ text name rest : List Char, readQuoted? text = some (name, rest) →
      text = quoteChars name ++ rest ∧ rest.head? ≠ some '"') ∧
    Function.Injective quote ∧
    ∀ c : Condition, c.isNative = true → (∀ column negate, c ≠ .member column [] negate) →
      ∃ body, c.NamesColumn body := by
  refine ⟨?_, ?_, ?_, ?_⟩
  · intro name rest hrest
    exact readQuoted?_eq_some_iff.mpr ⟨by rw [toList_quote], hrest⟩
  · intro text name rest h
    exact readQuoted?_eq_some_iff.mp h
  · intro a b h
    have hchars := congrArg String.toList h
    rw [toList_quote, toList_quote] at hchars
    exact String.toList_injective (quoteChars_injective hchars)
  · intro c hnative hmember
    exact c.exists_namesColumn hnative hmember

/-- Quotes at the beginning, in the middle and in a row at the end of a name do not end it, and no
reading of a name leaves a single quote. -/
theorem quote_selfDelimiting_sample :
    readQuoted? ['"', '"', '"', 'a', '"', '"', 'b', '"', '"', '"', '"', '"', ' ', '?'] =
      some (['"', 'a', '"', 'b', '"', '"'], [' ', '?']) ∧
    (∀ text name rest : List Char, readQuoted? text = some (name, rest) → rest ≠ ['"']) ∧
    ∃ body, (Condition.like "a" ⟨.start, "b"⟩ true).NamesColumn body := by
  obtain ⟨hread, hexact, -, hnamed⟩ := quote_selfDelimiting
  refine ⟨hread "\"a\"b\"\"" [' ', '?'] (by decide), ?_, hnamed _ rfl nofun⟩
  intro text name rest h
  have hrest := (hexact text name rest h).2
  rintro rfl
  exact hrest rfl

end TableSearch
