import TableSearch.Proofs.Access
import TableSearch.Proofs.Regex.Order
import TableSearch.Request

/-!
# What a compiled query asks of a row

A compiled request asks of a row exactly what its filters on known columns and its phrase ask. The
store is handed the filters that are no patterns; the others and the phrase are left to be evaluated
on the rows it gives.
-/
namespace TableSearch

def Filter.accepts (f : Filter) (schema : Schema) (row : Row) : Bool :=
  match f.compile schema with
  | .ok c => c.accepts row
  | .error _ => false

def Filter.isKnown (f : Filter) (schema : Schema) : Bool := (schema.column? f.column).isSome

/-- Whether a cell has a match that is not empty. -/
def Finder.occursIn (f : Finder) (cell : Value) : Bool :=
  !cell.isNull && (f.matcher.matchesIn cell.display.toList).any (!·.isEmpty)

def Finder.occurs (f : Finder) (schema : Schema) (row : Row) : Bool :=
  schema.globalColumns.any fun c => f.occursIn (row.get c.id)

namespace Request

variable (r : Request) (schema : Schema)

/-- Whether a row satisfies the filters on known columns that are no patterns. -/
def admits (row : Row) : Bool :=
  (r.filters.filter (·.isKnown schema)).all fun f => f.logic == .regex || f.accepts schema row

/-- Whether a row satisfies the filters on known columns that are patterns. -/
def patternsHold (row : Row) : Bool :=
  (r.filters.filter (·.isKnown schema)).all fun f => f.logic != .regex || f.accepts schema row

/-- The phrase of a request, compiled; an empty one counts as none. -/
def finder : Option Finder :=
  match r.phrase with
  | none => none
  | some p => if p.pattern.isEmpty then none else p.compile.toOption

/-- Whether a row satisfies the patterns and has the phrase in it. -/
def accepts (row : Row) : Bool :=
  r.patternsHold schema row && (r.finder.all fun f => f.occurs schema row)

end Request

theorem conditionOf_isNative {column : String} {logic : Logic} {values : List Value}
    {c : Condition} (h : conditionOf column logic values = .ok c) :
    c.isNative = (logic != .regex) := by
  unfold conditionOf at h
  split at h
  all_goals first
    | (cases h; rfl)
    | (split at h <;> cases h; rfl)
    | cases h

theorem Filter.compile_cases {f : Filter} {schema : Schema} {c : Condition}
    (h : f.compile schema = .ok c) :
    ∃ column values, schema.column? f.column = some column ∧ f.logic.supports column.type ∧
      coerceAll column f.logic f.values = .ok values ∧
      conditionOf column.id f.logic values = .ok c := by
  unfold compile at h
  split at h
  · cases h
  · rename_i column hcolumn
    split at h
    · cases h
    · rename_i hlogic
      obtain ⟨values, hvalues, hc⟩ := exists_of_bind_eq_ok h
      exact ⟨column, values, hcolumn, by simpa using hlogic, hvalues, hc⟩

theorem Filter.compile_isNative {f : Filter} {schema : Schema} {c : Condition}
    (h : f.compile schema = .ok c) : c.isNative = (f.logic != .regex) := by
  obtain ⟨column, values, -, -, -, hc⟩ := compile_cases h
  exact conditionOf_isNative hc

namespace Query

variable {schema : Schema}

theorem conditions_cons {f : Filter} {fs : List Filter} {cs : List Condition}
    (h : conditions schema (f :: fs) = .ok cs) :
    (f.isKnown schema = false ∧ conditions schema fs = .ok cs) ∨
      (f.isKnown schema = true ∧ ∃ c rest, f.compile schema = .ok c ∧
        conditions schema fs = .ok rest ∧ cs = c :: rest) := by
  simp only [conditions] at h
  cases hk : schema.column? f.column with
  | none =>
    simp only [hk, Option.isNone_none, if_true] at h
    exact .inl ⟨by simp [Filter.isKnown, hk], h⟩
  | some column =>
    simp only [hk, Option.isNone_some, Bool.false_eq_true, if_false] at h
    obtain ⟨c, hc, h⟩ := exists_of_bind_eq_ok h
    obtain ⟨rest, hrest, h⟩ := exists_of_bind_eq_ok h
    cases h
    exact .inr ⟨by simp [Filter.isKnown, hk], c, rest, hc, hrest, rfl⟩

/-- Conditions kept for the store, or kept back from it, ask what their filters ask. -/
theorem all_accepts_filter (keep : Bool → Bool) {fs : List Filter} {cs : List Condition}
    (h : conditions schema fs = .ok cs) (row : Row) :
    (cs.filter fun c => keep c.isNative).all (·.accepts row) =
      (fs.filter (·.isKnown schema)).all fun f =>
        !keep (f.logic != .regex) || f.accepts schema row := by
  induction fs generalizing cs with
  | nil =>
    cases h
    rfl
  | cons f fs ih =>
    rcases conditions_cons h with ⟨hk, hcs⟩ | ⟨hk, c, rest, hc, hrest, rfl⟩
    · rw [ih hcs, List.filter_cons, hk]
      rfl
    · have hn := Filter.compile_isNative hc
      have ha : f.accepts schema row = c.accepts row := by
        rw [Filter.accepts, hc]
      rw [List.filter_cons, List.filter_cons, hk, hn]
      cases hl : keep (f.logic != .regex) <;> simp [hl, ha, ih hrest]

theorem finder?_eq {request : Request} {finder : Option Finder}
    (h : finder? request.phrase = .ok finder) : finder = request.finder := by
  unfold Request.finder
  cases hp : request.phrase with
  | none =>
    rw [hp] at h
    cases h
    rfl
  | some p =>
    rw [hp] at h
    unfold finder? at h
    dsimp only at h ⊢
    split at h
    · rename_i he
      cases h
      rw [if_pos he]
    · rename_i he
      rw [if_neg he]
      cases hc : p.compile with
      | error e =>
        rw [hc] at h
        cases h
      | ok f =>
        rw [hc] at h
        cases h
        rfl

theorem exists_compile {request : Request} {q : Query} (h : compile schema request = .ok q)
    {phrase : Phrase} (hp : request.phrase = some phrase)
    (hpattern : phrase.pattern.isEmpty = false) : ∃ f, phrase.compile = .ok f := by
  obtain ⟨cs, -, h⟩ := exists_of_bind_eq_ok h
  obtain ⟨finder, hfinder, -⟩ := exists_of_bind_eq_ok h
  rw [hp, finder?, if_neg (by simp [hpattern])] at hfinder
  cases hc : phrase.compile with
  | error e =>
    rw [hc] at hfinder
    cases hfinder
  | ok f => exact ⟨f, rfl⟩

theorem compile_cases {request : Request} {q : Query} (h : compile schema request = .ok q) :
    ∃ cs, conditions schema request.filters = .ok cs ∧ q.native = cs.filter (·.isNative) ∧
      q.post = cs.filter (!·.isNative) ∧ q.finder = request.finder := by
  obtain ⟨cs, hcs, h⟩ := exists_of_bind_eq_ok h
  obtain ⟨finder, hfinder, h⟩ := exists_of_bind_eq_ok h
  cases h
  exact ⟨cs, hcs, rfl, rfl, finder?_eq hfinder⟩

variable {request : Request} {q : Query}

theorem native_accepts (h : compile schema request = .ok q) (row : Row) :
    q.native.all (·.accepts row) = request.admits schema row := by
  obtain ⟨cs, hcs, hn, -, -⟩ := compile_cases h
  have hall := all_accepts_filter id hcs row
  simp only [id_eq, bne, Bool.not_not] at hall
  rw [hn, hall]
  rfl

theorem post_accepts (h : compile schema request = .ok q) (row : Row) :
    q.post.all (·.accepts row) = request.patternsHold schema row := by
  obtain ⟨cs, hcs, -, hp, -⟩ := compile_cases h
  have hall := all_accepts_filter (!·) hcs row
  simp only [Bool.not_not] at hall
  rw [hp, hall]
  rfl

theorem finder_eq (h : compile schema request = .ok q) : q.finder = request.finder := by
  obtain ⟨cs, -, -, -, hf⟩ := compile_cases h
  exact hf

/-- A cell with a match that is not empty has a match. -/
theorem occurs_of_occurs {f : Finder} {row : Row} (h : f.occurs schema row = true) :
    Query.occurs f schema row = true := by
  obtain ⟨c, hc, ho⟩ := List.any_eq_true.mp h
  simp only [Finder.occursIn, Bool.and_eq_true] at ho
  refine List.any_eq_true.mpr ⟨c, hc, ?_⟩
  simp only [Finder.isMatch, Bool.and_eq_true]
  refine ⟨ho.1, ?_⟩
  cases hm : f.matcher.isMatch (row.get c.id).display.toList with
  | true => rfl
  | false =>
    rw [(Regex.Matcher.matchesIn_eq_nil_iff _).mpr hm] at ho
    exact absurd ho.2 Bool.false_ne_true

end Query

end TableSearch
