import Mathlib.Algebra.GroupWithZero.Nat
import TableSearch.Proofs.ClauseText
import TableSearch.Proofs.QuotedName

/-!
# The shape of conditions

The text of a clause is made from the shape of its conditions, which is what is left of them without
their values: two lists of conditions of one shape have one text. Main statement: this text has as
many question marks outside quoted names as each list has values, and these are the values of the
conditions in order (`sameText_of_sameShape`).
-/
namespace TableSearch

open Sql

/-- Two conditions that a store can evaluate and that differ in nothing but their values. -/
inductive Condition.SameShape : Condition → Condition → Prop
  | compare (column : String) (comparison : Comparison) (v w : Value) :
    SameShape (.compare column comparison v) (.compare column comparison w)
  | between (column : String) (low high low' high' : Value) :
    SameShape (.between column low high) (.between column low' high')
  | member (column : String) {vs ws : List Value} (negate : Bool) (h : vs.length = ws.length) :
    SameShape (.member column vs negate) (.member column ws negate)
  | like (column : String) (p q : LikePattern) (negate : Bool) :
    SameShape (.like column p negate) (.like column q negate)

namespace Condition.SameShape

variable {c d : Condition}

theorem isNative_left (h : c.SameShape d) : c.isNative = true := by
  cases h <;> rfl

theorem isNative_right (h : c.SameShape d) : d.isNative = true := by
  cases h <;> rfl

end Condition.SameShape

/-- The values that the question marks of a condition stand for; a pattern is escaped. -/
def Condition.operands : Condition → List Value
  | compare _ _ value => [value]
  | between _ low high => [low, high]
  | member _ values _ => values
  | like _ pattern _ => [.text pattern.operand]
  | regex .. => []

namespace Sql

theorem length_of_readInside? {cs name rest : List Char}
    (h : readInside? cs = some (name, rest)) : rest.length < cs.length := by
  obtain ⟨rfl, -⟩ := eq_of_readInside? h
  simp
  omega

/-- The number of question marks of a text that are outside quoted names. -/
def openMarks : List Char → Nat
  | [] => 0
  | c :: cs =>
    if c = '"' then
      match _h : readInside? cs with
      | none => 0
      | some (_, rest) => openMarks rest
    else openMarks cs + if c = '?' then 1 else 0
termination_by cs => cs.length
decreasing_by
  · exact Nat.lt_succ_of_lt (length_of_readInside? _h)
  · exact Nat.lt_succ_self _

section Marks

variable {cs rest : List Char}

/-- The question marks of a quoted name do not count. -/
theorem openMarks_name (h : rest.head? ≠ some '"') :
    openMarks (quoteChars cs ++ rest) = openMarks rest := by
  have hread : readInside? (doubleQuotes cs ++ ['"'] ++ rest) = some (cs, rest) :=
    readInside?_closed h
  rw [quoteChars, List.cons_append, openMarks, if_pos rfl]
  split
  · rename_i hnone
    rw [hread] at hnone
    cases hnone
  · rename_i hsome
    rw [hread] at hsome
    cases hsome
    rfl

theorem openMarks_append (h : '"' ∉ cs) :
    openMarks (cs ++ rest) = cs.count '?' + openMarks rest := by
  induction cs with
  | nil => simp
  | cons c cs ih =>
    rw [List.mem_cons, not_or] at h
    rw [List.cons_append, openMarks, if_neg (Ne.symm h.1), ih h.2, List.count_cons]
    simp only [beq_iff_eq]
    omega

end Marks

section Terms

theorem count_placeholders (count : Nat) :
    '"' ∉ (placeholders count).toList ∧ (placeholders count).toList.count '?' = count := by
  cases count with
  | zero => decide
  | succ count =>
    induction count with
    | zero => decide
    | succ count ih =>
      rw [placeholders_succ]
      simp [ih]

theorem Term.count_body (t : Term) :
    '"' ∉ t.body.toList ∧ t.body.toList.count '?' = t.arity := by
  cases t with
  | compare column c => cases c <;> simp [body, operator, arity]
  | between column => simp [body, arity]
  | member column count negate =>
    obtain ⟨hquotes, hmarks⟩ := count_placeholders count
    cases negate <;> simp [body, negation, arity, hquotes, hmarks]
  | like column negate => cases negate <;> simp [body, negation, arity]
  | constant truth => cases truth <;> decide

/-- The text of a term has a question mark for each value, wherever it stands. -/
theorem Term.openMarks_text (t : Term) (rest : List Char) :
    openMarks (t.text.toList ++ rest) = t.arity + openMarks rest := by
  obtain ⟨hquotes, hmarks⟩ := t.count_body
  have hbody : openMarks (t.body.toList ++ rest) = t.arity + openMarks rest := by
    rw [openMarks_append hquotes, hmarks]
  rw [t.toList_text]
  cases hcolumn : t.column? with
  | none => exact hbody
  | some column =>
    rw [Option.elim_some, List.append_assoc, openMarks_name, hbody]
    -- the name is not followed by a quote, since a blank begins what is said of the column
    rw [List.head?_append, head?_body hcolumn]
    simp

theorem Clause.openMarks_intercalate (clause : Clause) :
    openMarks (" AND ".intercalate (clause.map (·.term.text))).toList =
      (clause.map (·.term.arity)).sum := by
  induction clause with
  | nil => simp [openMarks]
  | cons b bs ih =>
    cases bs with
    | nil =>
      have hmarks := b.term.openMarks_text []
      simpa [openMarks] using hmarks
    | cons b' bs =>
      have htext : (" AND ".intercalate ((b :: b' :: bs).map (·.term.text))).toList =
          b.term.text.toList ++ ([' ', 'A', 'N', 'D', ' '] ++
            (" AND ".intercalate ((b' :: bs).map (·.term.text))).toList) := by
        simp
      rw [htext, b.term.openMarks_text, openMarks_append (by decide), ih]
      simp

theorem Clause.openMarks_text (clause : Clause) :
    openMarks clause.text.toList = (clause.map (·.term.arity)).sum := by
  cases clause with
  | nil => simp [text, openMarks]
  | cons b bs =>
    have htext : (Clause.text (b :: bs)).toList = ['W', 'H', 'E', 'R', 'E', ' '] ++
        (" AND ".intercalate ((b :: bs).map (·.term.text))).toList := by
      simp [text]
    rw [htext, openMarks_append (by decide), openMarks_intercalate]
    simp

theorem Clause.length_values {clause : Clause} (h : ∀ b ∈ clause, b.IsFull) :
    clause.values.length = (clause.map (·.term.arity)).sum := by
  rw [values, List.length_flatMap]
  congr 1
  apply List.map_congr_left
  intro b hb
  exact (h b hb).values

theorem BoundTerm.values_eq {c : Condition} {b : BoundTerm}
    (h : BoundTerm.ofCondition? c = some b) : b.values = c.operands := by
  cases c with
  | member column values negate => cases values <;> cases h <;> rfl
  | regex column pattern matcher negate => cases h
  | _ => cases h; rfl

theorem BoundTerm.term_eq_of_sameShape {c d : Condition} {a b : BoundTerm}
    (hshape : c.SameShape d) (hc : BoundTerm.ofCondition? c = some a)
    (hd : BoundTerm.ofCondition? d = some b) : a.term = b.term := by
  cases hshape with
  | compare column comparison v w => cases hc; cases hd; rfl
  | between column low high low' high' => cases hc; cases hd; rfl
  | @member column vs ws negate hlength =>
    cases vs with
    | nil =>
      obtain rfl := List.length_eq_zero_iff.mp hlength.symm
      cases hc
      cases hd
      rfl
    | cons v vs =>
      cases ws with
      | nil => cases hlength
      | cons w ws =>
        cases hc
        cases hd
        exact congrArg (fun count => Term.member column count negate) hlength
  | like column p q negate => cases hc; cases hd; rfl

theorem Clause.terms_eq {conditions others : List Condition} {clause clause' : Clause}
    (h : conditions.Forall₂ Condition.SameShape others)
    (hterms : conditions.Forall₂ (fun c b => BoundTerm.ofCondition? c = some b) clause)
    (hterms' : others.Forall₂ (fun c b => BoundTerm.ofCondition? c = some b) clause') :
    clause.map (·.term) = clause'.map (·.term) := by
  induction h generalizing clause clause' with
  | nil => cases hterms; cases hterms'; rfl
  | cons hshape _ ih =>
    cases hterms with
    | cons hb hterms =>
      cases hterms' with
      | cons hb' hterms' =>
        rw [List.map_cons, List.map_cons, BoundTerm.term_eq_of_sameShape hshape hb hb',
          ih hterms hterms']

/-- The text of a clause is that of its terms. -/
theorem Clause.text_congr {clause clause' : Clause}
    (h : clause.map (·.term) = clause'.map (·.term)) : clause.text = clause'.text := by
  have htexts : clause.map (·.term.text) = clause'.map (·.term.text) := by
    have hmap := congrArg (List.map Term.text) h
    rwa [List.map_map, List.map_map] at hmap
  cases clause with
  | nil =>
    cases clause' with
    | nil => rfl
    | cons b' bs' => cases h
  | cons b bs =>
    cases clause' with
    | nil => cases h
    | cons b' bs' => exact congrArg (fun texts => "WHERE " ++ " AND ".intercalate texts) htexts

/-- A clause has the values of conditions in order and as many question marks outside quoted names,
and each of its terms has as many as its own condition has values. -/
structure Clause.Asks (clause : Clause) (conditions : List Condition) : Prop where
  openMarks_eq : openMarks clause.text.toList = clause.values.length
  values_eq : clause.values = conditions.flatMap Condition.operands
  terms_eq : clause.map (fun b => openMarks b.term.text.toList) =
    conditions.map fun c => c.operands.length

theorem BoundTerm.openMarks_eq {c : Condition} {b : BoundTerm}
    (h : BoundTerm.ofCondition? c = some b) :
    openMarks b.term.text.toList = c.operands.length := by
  have hmarks := b.term.openMarks_text []
  rw [List.append_nil, openMarks, Nat.add_zero] at hmarks
  rw [hmarks, ← values_eq h, (isFull_of_condition h).values]

theorem Clause.asks {conditions : List Condition} {clause : Clause}
    (h : conditions.Forall₂ (fun c b => BoundTerm.ofCondition? c = some b) clause) :
    clause.Asks conditions where
  openMarks_eq := by
    rw [clause.openMarks_text, Clause.length_values (Clause.isFull_of_conditions h)]
  values_eq := by
    induction h with
    | nil => rfl
    | cons hb _ ih =>
      rw [values, List.flatMap_cons, BoundTerm.values_eq hb, List.flatMap_cons, ← ih]
      rfl
  terms_eq := by
    induction h with
    | nil => rfl
    | cons hb _ ih => rw [List.map_cons, List.map_cons, BoundTerm.openMarks_eq hb, ih]

end Terms

end Sql

/-- Two lists of conditions that a store can evaluate, of one shape in each place, have clauses of
one text, whatever their values. Each clause has the values of its conditions in order and as many
question marks outside quoted names, each term having those of its own condition. -/
theorem sameText_of_sameShape {conditions others : List Condition}
    (h : conditions.Forall₂ Condition.SameShape others) :
    ∃ clause clause', Clause.ofConditions conditions = .ok clause ∧
      Clause.ofConditions others = .ok clause' ∧ clause.text = clause'.text ∧
      clause.Asks conditions ∧ clause'.Asks others := by
  have hnative : (∀ c ∈ conditions, c.isNative = true) ∧ ∀ c ∈ others, c.isNative = true := by
    induction h with
    | nil => exact ⟨nofun, nofun⟩
    | cons hc _ ih =>
      exact ⟨List.forall_mem_cons.mpr ⟨hc.isNative_left, ih.1⟩,
        List.forall_mem_cons.mpr ⟨hc.isNative_right, ih.2⟩⟩
  obtain ⟨clause, hclause, hterms⟩ := Clause.exists_ofConditions hnative.1
  obtain ⟨clause', hclause', hterms'⟩ := Clause.exists_ofConditions hnative.2
  refine ⟨clause, clause', hclause, hclause', ?_, Clause.asks hterms, Clause.asks hterms'⟩
  exact Clause.text_congr (Clause.terms_eq h hterms hterms')

/-- Values with marks and quotes of their own leave the text as it is, next to a column that has
both in its name and to membership in no values. -/
theorem sameText_of_sameShape_sample :
    let conditions : List Condition := [.member "a\"?" [.text "x", .integer 1] true,
      .member "b" [] false, .like "c" ⟨.start, "50%"⟩ false]
    let others : List Condition := [.member "a\"?" [.text "?) OR \"", .null] true,
      .member "b" [] false, .like "c" ⟨.anywhere, "'?"⟩ false]
    ∃ clause clause', Clause.ofConditions conditions = .ok clause ∧
      Clause.ofConditions others = .ok clause' ∧ clause.text = clause'.text ∧
      openMarks clause.text.toList = 3 ∧
      clause.values = [.text "x", .integer 1, .text "50\\%%"] ∧
      clause'.values = [.text "?) OR \"", .null, .text "%'?%"] := by
  intro conditions others
  have hshape : conditions.Forall₂ Condition.SameShape others :=
    .cons (.member _ _ rfl) (.cons (.member _ _ rfl) (.cons (.like _ _ _ _) .nil))
  obtain ⟨clause, clause', hclause, hclause', htext, hasks, hasks'⟩ := sameText_of_sameShape hshape
  have hvalues : clause.values = [.text "x", .integer 1, .text "50\\%%"] := hasks.values_eq
  refine ⟨clause, clause', hclause, hclause', htext, ?_, hvalues, hasks'.values_eq⟩
  rw [hasks.openMarks_eq, hvalues]
  rfl

end TableSearch
