import Mathlib.Data.List.Basic
import TableSearch.Filter.Compile
import TableSearch.Proofs.ClauseText
import TableSearch.Proofs.Query

/-!
# What a clause keeps

The predicates read from the text of a clause have three truth values in a row, the values being
looked up by the numbers of their question marks. Main statement: if each tested cell is null or of
the class of the values that it is compared with, the clause of compiled filters keeps a row
exactly if every condition accepts it (`keeps_iff_accepts`).
-/
namespace TableSearch

open Sql

namespace Sql

/-- What the names and the question marks of a clause stand for. -/
structure Scope where
  /-- The cell of a column, and what the column prefers. -/
  column : String → Affinity × Cell
  parameter : Nat → Cell

def Operand.cell (s : Scope) : Operand → Cell
  | column name => (s.column name).2
  | parameter i => s.parameter i
  | number n => .integer (.ofNat n)

/-- What an operand prefers; only a column has a preference. -/
def Operand.affinity (s : Scope) : Operand → Affinity
  | column name => (s.column name).1
  | parameter _ => .blob
  | number _ => .blob

/-- The truth of a LIKE term with a given escape character. -/
def likeTruthWith (escape : Char) (cell pattern : Cell) : Truth :=
  if cell.isNull || pattern.isNull then none
  else some (like escape (likeChars pattern.toBytes) (likeChars cell.toBytes))

def Predicate.truth (s : Scope) : Predicate → Truth
  | compare a c b => comparisonTruth (a.affinity s) (a.cell s) (b.cell s) c
  | between a low high =>
    Truth.and ((comparisonTruth (a.affinity s) (a.cell s) (low.cell s) .less).map not)
      ((comparisonTruth (a.affinity s) (a.cell s) (high.cell s) .greater).map not)
  | member a values negate =>
    (memberTruth (a.affinity s) (a.cell s) (values.map (·.cell s))).map (· != negate)
  | like a pattern escape negate =>
    (likeTruthWith escape (a.cell s) (pattern.cell s)).map (· != negate)

/-- Whether a conjunction of predicates is true; it is not where it is unknown. -/
def Scope.keeps (s : Scope) (predicates : List Predicate) : Bool :=
  (predicates.map (·.truth s)).foldr Truth.and (some true) == some true

/-- Names stand for cells of a row, and question marks for values in their order. -/
def Table.scope (t : Table) (r : Record) (values : List Value) : Scope where
  column name := (t.affinity (t.resolve name), r.get (t.resolve name))
  parameter i := ((values[i]?).map Cell.ofValue).getD .null

section Terms

variable {t : Table} {r : Record} {values rest : List Value} {n : Nat}

theorem Table.scope_parameter {v : Value} (h : values.drop n = v :: rest) :
    (t.scope r values).parameter n = Cell.ofValue v := by
  have hv : values[n]? = some v := by
    rw [← List.head?_drop, h]
    rfl
  simp [Table.scope, hv]

theorem Table.map_cell_parameters {vs : List Value} (h : values.drop n = vs ++ rest) :
    (parameters n vs.length).map (·.cell (t.scope r values)) = vs.map Cell.ofValue := by
  induction vs generalizing n with
  | nil => rfl
  | cons v vs ih =>
    have hvs : values.drop (n + 1) = vs ++ rest := by
      rw [← List.tail_drop, h]
      rfl
    rw [List.length_cons, parameters, List.map_cons, List.map_cons, ih hvs]
    exact congrArg (· :: _) (Table.scope_parameter h)

/-- What a term says has the truth of the term, if its values have the numbers from `n` on. -/
theorem Table.truth_predicate {b : BoundTerm} (hb : b.IsFull)
    (h : values.drop n = b.values ++ rest) :
    (b.term.predicate n).truth (t.scope r values) = t.termTruth r b := by
  obtain ⟨term, vs⟩ := b
  have hlength := hb.values
  cases term with
  | compare column c =>
    obtain ⟨v, rfl⟩ := List.length_eq_one_iff.mp hlength
    change comparisonTruth _ _ ((t.scope r values).parameter n) c = _
    rw [Table.scope_parameter h]
    rfl
  | between column =>
    obtain ⟨low, high, rfl⟩ := List.length_eq_two.mp hlength
    have hhigh : values.drop (n + 1) = high :: rest := by
      rw [← List.tail_drop, h]
      rfl
    change Truth.and ((comparisonTruth _ _ ((t.scope r values).parameter n) .less).map not)
      ((comparisonTruth _ _ ((t.scope r values).parameter (n + 1)) .greater).map not) = _
    rw [Table.scope_parameter h, Table.scope_parameter hhigh]
    rfl
  | member column count negate =>
    obtain rfl : vs.length = count := hlength
    change (memberTruth _ _ ((parameters n vs.length).map _)).map _ = _
    rw [Table.map_cell_parameters h]
    rfl
  | like column negate =>
    obtain ⟨v, rfl⟩ := List.length_eq_one_iff.mp hlength
    change (likeTruthWith _ _ ((t.scope r values).parameter n)).map _ = _
    rw [Table.scope_parameter h]
    rfl
  | constant truth => cases truth <;> rfl

theorem Table.keeps_predicates {clause : Clause} (h : ∀ b ∈ clause, b.IsFull) :
    (t.scope r clause.values).keeps (clause.predicates 0) = t.keeps clause r := by
  have htruth (n : Nat) (values : List Value) (clause : Clause) (h : ∀ b ∈ clause, b.IsFull)
      (hvalues : values.drop n = clause.values) :
      (clause.predicates n).map (·.truth (t.scope r values)) = clause.map (t.termTruth r) := by
    induction clause generalizing n with
    | nil => rfl
    | cons b bs ih =>
      have hb := h b List.mem_cons_self
      have hrest : values.drop (n + b.term.arity) = Clause.values bs := by
        rw [← List.drop_drop, hvalues, ← hb.values]
        exact List.drop_left
      rw [Clause.predicates, List.map_cons, List.map_cons, Table.truth_predicate hb hvalues,
        ih _ (fun b hb => h b (List.mem_cons_of_mem _ hb)) hrest]
  rw [Scope.keeps, htruth 0 clause.values clause h rfl]
  rfl

end Terms

def BoundTerm.truth (affinity : Affinity) (cell : Cell) (b : BoundTerm) : Truth :=
  b.term.truth affinity cell (b.values.map Cell.ofValue)

/-- Two values of one class: integers, or texts. -/
inductive SameClass : Value → Value → Prop
  | integers (m n : Int64) : SameClass (.integer m) (.integer n)
  | texts (s t : String) : SameClass (.text s) (.text t)

namespace SameClass

variable {cell v : Value}

theorem isNull_left (h : SameClass cell v) : cell.isNull = false := by
  cases h <;> rfl

theorem order_eq (h : SameClass cell v) :
    cell.order v = some ((Cell.ofValue cell).order (Cell.ofValue v)) := by
  cases h with
  | integers m n => rfl
  | texts s t =>
    have hbytes : (Cell.ofValue (.text s)).order (Cell.ofValue (.text t)) = compare s t :=
      Cell.orderBytes_encode s t
    rw [hbytes]
    unfold Value.order
    simp only [Value.isNull, Bool.or_self, Bool.false_eq_true, if_false]
    split <;> rfl

theorem looseEq_eq (h : SameClass cell v) :
    cell.looseEq v = ((Cell.ofValue cell).order (Cell.ofValue v) == .eq) := by
  cases h with
  | integers m n =>
    change (m == n) = (compare m n == .eq)
    rw [Bool.eq_iff_iff, beq_iff_eq, beq_iff_eq, Std.compare_eq_iff_eq]
  | texts s t =>
    change (s == t) = (Cell.orderBytes (Text.Utf8.encode s) (Text.Utf8.encode t) == .eq)
    rw [Cell.orderBytes_encode, Bool.eq_iff_iff, beq_iff_eq, beq_iff_eq, Std.compare_eq_iff_eq]

/-- Where the column leaves the value as it is, the two comparisons agree. -/
theorem comparisonTruth_eq (h : SameClass cell v) {affinity : Affinity}
    (hkept : affinity.operand (.ofValue v) = .ofValue v) (c : Comparison) :
    comparisonTruth affinity (.ofValue cell) (.ofValue v) c = some (c.holds cell v) := by
  have hnull : ((Cell.ofValue cell).isNull || (Cell.ofValue v).isNull) = false := by
    cases h <;> rfl
  rw [comparisonTruth, compareCells, hnull, if_neg Bool.false_ne_true, hkept, Option.map_some]
  cases c with
  | equal => rw [Comparison.holds, h.looseEq_eq]
  | different => rw [Comparison.holds, h.looseEq_eq]; rfl
  | greater => rw [Comparison.holds, h.order_eq]; rfl
  | less => rw [Comparison.holds, h.order_eq]; rfl

end SameClass

theorem memberTruth_null (affinity : Affinity) {values : List Cell} (h : values ≠ []) :
    memberTruth affinity .null values = none := by
  induction values with
  | nil => exact absurd rfl h
  | cons v values ih =>
    cases values with
    | nil => rfl
    | cons w values =>
      change Truth.or none (memberTruth affinity .null (w :: values)) = none
      rw [ih (List.cons_ne_nil _ _)]
      rfl

theorem Truth.or_some (a b : Bool) : Truth.or (some a) (some b) = some (a || b) := by
  cases a <;> cases b <;> rfl

theorem Truth.and_eq_true_iff {a b : Truth} :
    a.and b = some true ↔ a = some true ∧ b = some true := by
  rcases a with _ | _ | _ <;> rcases b with _ | _ | _ <;> simp [Truth.and]

theorem Truth.foldr_and_eq_true_iff {truths : List Truth} :
    truths.foldr Truth.and (some true) = some true ↔ ∀ a ∈ truths, a = some true := by
  induction truths with
  | nil => simp
  | cons a truths ih => rw [List.foldr_cons, Truth.and_eq_true_iff, ih, List.forall_mem_cons]

end Sql

namespace Condition

/-- Whether a condition compares the cell with values. -/
def isComparison : Condition → Bool
  | compare .. => true
  | between .. => true
  | member .. => true
  | like .. => false
  | regex .. => false

def bounds : Condition → List Value
  | compare _ _ value => [value]
  | between _ low high => [low, high]
  | member _ values _ => values
  | like .. => []
  | regex .. => []

/-- Whether the cell of a column is null, or of one class with the values of a condition, which the
column leaves as they are. -/
def Suits (c : Condition) (affinity : Affinity) (cell : Value) : Prop :=
  cell = .null ∨
    ∀ v ∈ c.bounds, SameClass cell v ∧ affinity.operand (.ofValue v) = .ofValue v

variable {c : Condition} {b : BoundTerm} {affinity : Affinity} {cell : Value}

theorem isNative_of_isComparison (h : c.isComparison = true) : c.isNative = true := by
  cases c with
  | regex column pattern matcher negate => cases h
  | _ => rfl

theorem bounds_conditionOf {column : String} {logic : Logic} {values : List Value}
    (h : conditionOf column logic values = .ok c) (hc : c.isComparison = true) : c.bounds ≠ [] := by
  unfold conditionOf at h
  split at h
  all_goals first
    | (cases h; exact List.cons_ne_nil _ _)
    | (cases h; cases hc)
    | (split at h <;> cases h; cases hc)
    | cases h

theorem bounds_ne_nil {f : Filter} {schema : Schema} (h : f.compile schema = .ok c)
    (hc : c.isComparison = true) : c.bounds ≠ [] := by
  obtain ⟨column, values, -, -, -, hcondition⟩ := Filter.compile_cases h
  exact bounds_conditionOf hcondition hc

theorem truth_of_null (hc : c.isComparison = true) (hbounds : c.bounds ≠ [])
    (h : BoundTerm.ofCondition? c = some b) : b.truth affinity .null = none := by
  cases c with
  | compare column comparison value =>
    cases h
    rfl
  | between column low high =>
    cases h
    rfl
  | member column values negate =>
    cases values with
    | nil => exact absurd rfl hbounds
    | cons v vs =>
      cases h
      change (memberTruth affinity .null ((v :: vs).map Cell.ofValue)).map _ = none
      rw [memberTruth_null affinity (by simp)]
      rfl
  | like column pattern negate => cases hc
  | regex column pattern matcher negate => cases hc

theorem memberTruth_eq {values : List Value}
    (h : ∀ v ∈ values, SameClass cell v ∧ affinity.operand (.ofValue v) = .ofValue v) :
    memberTruth affinity (.ofValue cell) (values.map Cell.ofValue) =
      some (values.any cell.looseEq) := by
  induction values with
  | nil => rfl
  | cons v values ih =>
    obtain ⟨⟨hv, hkept⟩, hrest⟩ := List.forall_mem_cons.mp h
    change Truth.or (comparisonTruth affinity (.ofValue cell) (.ofValue v) .equal)
      (memberTruth affinity (.ofValue cell) (values.map Cell.ofValue)) = _
    rw [hv.comparisonTruth_eq hkept, ih hrest, Truth.or_some]
    rfl

theorem truth_of_sameClass (hc : c.isComparison = true) (hbounds : c.bounds ≠ [])
    (hclass : ∀ v ∈ c.bounds, SameClass cell v ∧ affinity.operand (.ofValue v) = .ofValue v)
    (h : BoundTerm.ofCondition? c = some b) :
    b.truth affinity (.ofValue cell) = some (c.holds cell) := by
  cases c with
  | compare column comparison value =>
    cases h
    obtain ⟨hv, hkept⟩ := hclass value List.mem_cons_self
    exact hv.comparisonTruth_eq hkept comparison
  | between column low high =>
    cases h
    obtain ⟨hlow, hlowKept⟩ := hclass low List.mem_cons_self
    obtain ⟨hhigh, hhighKept⟩ := hclass high (List.mem_cons_of_mem _ List.mem_cons_self)
    change Truth.and ((comparisonTruth affinity (.ofValue cell) (.ofValue low) .less).map not)
      ((comparisonTruth affinity (.ofValue cell) (.ofValue high) .greater).map not) = _
    rw [hlow.comparisonTruth_eq hlowKept, hhigh.comparisonTruth_eq hhighKept]
    simp only [Comparison.holds, holds, hlow.order_eq, hhigh.order_eq]
    cases (Cell.ofValue cell).order (.ofValue low) <;>
      cases (Cell.ofValue cell).order (.ofValue high) <;> rfl
  | member column values negate =>
    cases values with
    | nil => exact absurd rfl hbounds
    | cons v vs =>
      cases h
      change (memberTruth affinity (.ofValue cell) ((v :: vs).map Cell.ofValue)).map _ = _
      have htruth : memberTruth affinity (.ofValue cell) ((v :: vs).map Cell.ofValue) =
          some ((v :: vs).any cell.looseEq) := memberTruth_eq hclass
      rw [htruth]
      rfl
  | like column pattern negate => cases hc
  | regex column pattern matcher negate => cases hc

theorem truth_eq_true_iff (hc : c.isComparison = true) (hbounds : c.bounds ≠ [])
    (hsuits : c.Suits affinity cell) (h : BoundTerm.ofCondition? c = some b) :
    b.truth affinity (.ofValue cell) = some true ↔ (!cell.isNull && c.holds cell) = true := by
  rcases hsuits with rfl | hclass
  · rw [show Cell.ofValue .null = .null from rfl, truth_of_null hc hbounds h]
    simp [Value.isNull]
  · obtain ⟨v, vs, hvs⟩ := List.exists_cons_of_ne_nil hbounds
    have hnull : cell.isNull = false := (hclass v (hvs ▸ List.mem_cons_self)).1.isNull_left
    rw [truth_of_sameClass hc hbounds hclass h, hnull]
    simp

end Condition

theorem Filter.exists_compile_of_mem {schema : Schema} {filters : List Filter}
    {conditions : List Condition}
    (h : List.Forall₂ (fun (f : Filter) c => f.compile schema = .ok c) filters conditions)
    {c : Condition} (hc : c ∈ conditions) : ∃ f : Filter, f.compile schema = .ok c := by
  induction h with
  | nil => cases hc
  | cons hf _ ih =>
    rcases List.mem_cons.mp hc with rfl | hc
    · exact ⟨_, hf⟩
    · exact ih hc

namespace Sql

theorem Table.termTruth_eq {t : Table} {r : Record} {c : Condition} {b : BoundTerm}
    (hc : c.isComparison = true) (hbounds : c.bounds ≠ [])
    (h : BoundTerm.ofCondition? c = some b) :
    t.termTruth r b = b.truth (t.affinity (t.resolve c.column)) (r.get (t.resolve c.column)) := by
  cases c with
  | compare column comparison value => cases h; rfl
  | between column low high => cases h; rfl
  | member column values negate =>
    cases values with
    | nil => exact absurd rfl hbounds
    | cons v vs => cases h; rfl
  | like column pattern negate => cases hc
  | regex column pattern matcher negate => cases hc

theorem Table.keeps_eq_true_iff {t : Table} {r : Record} {row : Row} {conditions : List Condition}
    {clause : Clause}
    (hterms : List.Forall₂ (fun c b => BoundTerm.ofCondition? c = some b) conditions clause)
    (hcompares : ∀ c ∈ conditions, c.isComparison = true ∧ c.bounds ≠ [])
    (hcell : ∀ c ∈ conditions, r.get (t.resolve c.column) = .ofValue (row.get c.column))
    (hsuits : ∀ c ∈ conditions,
      c.Suits (t.affinity (t.resolve c.column)) (row.get c.column)) :
    t.keeps clause r = true ↔ ∀ c ∈ conditions, c.accepts row = true := by
  rw [Table.keeps, beq_iff_eq, Truth.foldr_and_eq_true_iff, List.forall_mem_map]
  induction hterms with
  | nil => simp
  | cons hb _ ih =>
    obtain ⟨⟨hcompares, hbounds⟩, hcomparesRest⟩ := List.forall_mem_cons.mp hcompares
    obtain ⟨hcell, hcellRest⟩ := List.forall_mem_cons.mp hcell
    obtain ⟨hsuits, hsuitsRest⟩ := List.forall_mem_cons.mp hsuits
    rw [List.forall_mem_cons, List.forall_mem_cons, ih hcomparesRest hcellRest hsuitsRest,
      Table.termTruth_eq hcompares hbounds hb, hcell,
      Condition.truth_eq_true_iff hcompares hbounds hsuits hb]
    rfl

/-- For filters that compile to conditions of comparison, and a row in which each tested cell is
null or suits its condition: the clause has a text that reads back; its values being taken for the
question marks in their order, what it says is true of the row exactly if every condition accepts
the row. -/
theorem keeps_iff_accepts {schema : Schema} {filters : List Filter} {conditions : List Condition}
    {t : Table} {r : Record} {row : Row}
    (hcompile : List.Forall₂ (fun (f : Filter) c => f.compile schema = .ok c) filters conditions)
    (hkind : ∀ c ∈ conditions, c.isComparison = true)
    (hcell : ∀ c ∈ conditions, r.get (t.resolve c.column) = .ofValue (row.get c.column))
    (hsuits : ∀ c ∈ conditions,
      c.Suits (t.affinity (t.resolve c.column)) (row.get c.column)) :
    ∃ clause predicates, Clause.ofConditions conditions = .ok clause ∧
      readClause? clause.text = some predicates ∧
      (t.scope r clause.values).keeps predicates = t.keeps clause r ∧
      ((t.scope r clause.values).keeps predicates = true ↔
        ∀ c ∈ conditions, c.accepts row = true) := by
  obtain ⟨clause, hclause, hterms⟩ := Clause.exists_ofConditions fun c hc =>
    Condition.isNative_of_isComparison (hkind c hc)
  have hfull : ∀ b ∈ clause, b.IsFull := Clause.isFull_of_conditions hterms
  have hcompares : ∀ c ∈ conditions, c.isComparison = true ∧ c.bounds ≠ [] := by
    intro c hc
    obtain ⟨f, hf⟩ := Filter.exists_compile_of_mem hcompile hc
    exact ⟨hkind c hc, Condition.bounds_ne_nil hf (hkind c hc)⟩
  refine ⟨clause, clause.predicates 0, hclause, readClause?_text hfull,
    Table.keeps_predicates hfull, ?_⟩
  rw [Table.keeps_predicates hfull]
  exact Table.keeps_eq_true_iff hterms hcompares hcell hsuits

/-- A text column whose name has a quotation mark and a question mark in it, and two of integers. -/
def sampleTable : Table where
  columns := [{ name := "a\"?", affinity := .text }, { name := "n", affinity := .integer },
    { name := "m", affinity := .integer }]

def sampleSchema : Schema where
  name := "sample"
  table := "sample"
  columns := [{ id := "a\"?", type := .string, title := "A" },
    { id := "n", type := .integer, title := "N" }, { id := "m", type := .integer, title := "M" }]

/-- A membership and a range with its bounds in the wrong order keep a row, and a comparison with a
cell that is null does not. -/
theorem keeps_iff_accepts_sample :
    let r : Record := ⟨1, [.ofString "x?", .integer 5, .null]⟩
    let row : Row := ⟨1, .ofList [("a\"?", .text "x?"), ("n", .integer 5), ("m", .null)]⟩
    let filters : List Filter := [⟨"a\"?", .includes, [.text "y", .text "x?"]⟩,
      ⟨"n", .range, [.integer 7, .text "3"]⟩]
    let conditions : List Condition := [.member "a\"?" [.text "y", .text "x?"] false,
      .between "n" (.integer 3) (.integer 7)]
    let onNull : Condition := .compare "m" .different (.integer 4)
    List.Forall₂ (fun (f : Filter) c => f.compile sampleSchema = .ok c) filters conditions ∧
    (∀ c ∈ conditions, c.accepts row = true) ∧ onNull.accepts row = false ∧
    (∃ clause predicates, Clause.ofConditions conditions = .ok clause ∧
      readClause? clause.text = some predicates ∧
      (sampleTable.scope r clause.values).keeps predicates = true) ∧
    ∃ clause predicates, Clause.ofConditions (onNull :: conditions) = .ok clause ∧
      readClause? clause.text = some predicates ∧
      (sampleTable.scope r clause.values).keeps predicates = false := by
  intro r row filters conditions onNull
  have hcompile : List.Forall₂ (fun (f : Filter) c => f.compile sampleSchema = .ok c) filters
      conditions := .cons rfl (.cons rfl .nil)
  have hnull : Filter.compile ⟨"m", .differs, [.integer 4]⟩ sampleSchema = .ok onNull := rfl
  have hcell : ∀ c ∈ conditions,
      r.get (sampleTable.resolve c.column) = .ofValue (row.get c.column) := by
    simp only [conditions, List.forall_mem_cons]
    exact ⟨rfl, rfl, nofun⟩
  have hsuits : ∀ c ∈ conditions,
      c.Suits (sampleTable.affinity (sampleTable.resolve c.column)) (row.get c.column) := by
    simp only [conditions, List.forall_mem_cons]
    refine ⟨.inr ?_, .inr ?_, nofun⟩
    · simp only [Condition.bounds, List.forall_mem_cons]
      exact ⟨⟨.texts _ _, rfl⟩, ⟨.texts _ _, rfl⟩, nofun⟩
    · simp only [Condition.bounds, List.forall_mem_cons]
      exact ⟨⟨.integers _ _, rfl⟩, ⟨.integers _ _, rfl⟩, nofun⟩
  have hnullCell :
      r.get (sampleTable.resolve onNull.column) = .ofValue (row.get onNull.column) := by
    decide
  have hnullSuits : onNull.Suits (sampleTable.affinity (sampleTable.resolve onNull.column))
      (row.get onNull.column) := .inl (by decide)
  have haccepts : ∀ c ∈ conditions, c.accepts row = true := by
    simp only [conditions, List.forall_mem_cons]
    exact ⟨by decide, by decide, nofun⟩
  have hrejects : onNull.accepts row = false := by decide
  obtain ⟨clause, predicates, hclause, hread, -, hkeeps⟩ :=
    keeps_iff_accepts hcompile (by simp [conditions, Condition.isComparison]) hcell hsuits
  obtain ⟨clause', predicates', hclause', hread', -, hkeeps'⟩ :=
    keeps_iff_accepts (.cons hnull hcompile) (by simp [conditions, onNull, Condition.isComparison])
      (List.forall_mem_cons.mpr ⟨hnullCell, hcell⟩) (List.forall_mem_cons.mpr ⟨hnullSuits, hsuits⟩)
  refine ⟨hcompile, haccepts, hrejects,
    ⟨clause, predicates, hclause, hread, hkeeps.mpr haccepts⟩,
    ⟨clause', predicates', hclause', hread', ?_⟩⟩
  rw [Bool.eq_false_iff, ne_eq, hkeeps', List.forall_mem_cons, hrejects]
  simp

end Sql

end TableSearch
