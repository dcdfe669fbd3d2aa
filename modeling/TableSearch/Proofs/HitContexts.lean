import Mathlib.Algebra.GroupWithZero.Nat
import Mathlib.Data.List.Forall2
import TableSearch.Proofs.Assembly
import TableSearch.Proofs.Spans

/-!
# What hits show of the cells of a row

A hit has one context for each column of the schema, in its order and numbered from zero. A context
holds what is displayed of its cell, and it shows matches exactly where a phrase is given, the column
is searched and the phrase has a match in the cell that is not empty. Main statement: this is so
however values are labelled, and two ways to label them give hits that differ in labels only
(`labelledBy_faithful`).
-/
namespace TableSearch

/-- A context with another label at most: whatever else it shows is the same, and so is its equality
with any other context. -/
structure Context.SameButLabel (c d : Context) : Prop where
  id : c.id = d.id
  content : c.content = d.content
  valueLength : c.valueLength = d.valueLength
  isMatched : c.isMatched = d.isMatched
  spans : c.spans = d.spans
  isEqual_left (e : Context) : c.isEqual e = d.isEqual e
  isEqual_right (e : Context) : e.isEqual c = e.isEqual d

theorem Context.SameButLabel.refl (c : Context) : c.SameButLabel c := by
  constructor <;> intros <;> rfl

theorem Context.ofValue_sameButLabel (id : Nat) (v : Value) (label label' : Option String) :
    (ofValue id v label).SameButLabel (ofValue id v label') where
  id := rfl
  content := rfl
  valueLength := rfl
  isMatched := rfl
  spans := rfl
  isEqual_left e := by cases e <;> rfl
  isEqual_right e := by cases e <;> rfl

/-- A phrase is given, a column is searched, and the phrase has a match in the cell there that is
not empty. -/
def Finder.MatchesCell (finder : Option Finder) (c : Column) (cell : Value) : Prop :=
  ∃ f, finder = some f ∧ c.global = true ∧ cell ≠ .null ∧
    ∃ found ∈ f.matcher.matchesIn cell.display.toList, found.isEmpty = false

namespace Hit

/-- What may be shown of a cell: the matches there, or the value with some label. -/
inductive Shows (finder : Option Finder) (c : Column) (id : Nat) (cell : Value) : Context → Prop
  | found {context : Context} (h : matchIn? finder c id cell = some context) :
    Shows finder c id cell context
  | value (h : matchIn? finder c id cell = none) (label : String) :
    Shows finder c id cell (.ofValue id cell (some label))

section Cell

variable {finder : Option Finder} {c : Column} {id : Nat} {cell : Value} {context : Context}

theorem matchIn?_cases (h : matchIn? finder c id cell = some context) :
    ∃ spans, context = .found id cell.display spans := by
  unfold matchIn? at h
  split at h
  · cases h
  · split at h
    · exact ⟨_, (Context.find?_cases h).1⟩
    · cases h

theorem matchIn?_isSome_iff :
    (matchIn? finder c id cell).isSome ↔ Finder.MatchesCell finder c cell := by
  cases finder with
  | none =>
    constructor
    · intro h
      cases h
    · rintro ⟨f, hf, -⟩
      cases hf
  | some f =>
    have hnull : cell.isNull = false ↔ cell ≠ .null := by cases cell <;> simp [Value.isNull]
    rw [matchIn?_isSome]
    simp only [Option.any_some, Finder.occursIn, Finder.MatchesCell, Bool.and_eq_true,
      Bool.not_eq_true', hnull, List.any_eq_true, Option.some.injEq, exists_eq_left']

namespace Shows

theorem id_eq (h : Shows finder c id cell context) : context.id = id := by
  cases h with
  | found h =>
    obtain ⟨spans, rfl⟩ := matchIn?_cases h
    rfl
  | value h label => rfl

theorem content_eq (h : Shows finder c id cell context) : context.content = cell.display := by
  cases h with
  | found h =>
    obtain ⟨spans, rfl⟩ := matchIn?_cases h
    rfl
  | value h label => rfl

theorem isMatched_eq (h : Shows finder c id cell context) :
    context.isMatched = (matchIn? finder c id cell).isSome := by
  cases h with
  | found h =>
    rw [h]
    obtain ⟨spans, rfl⟩ := matchIn?_cases h
    rfl
  | value h label =>
    rw [h]
    rfl

theorem isMatched_iff (h : Shows finder c id cell context) :
    context.isMatched ↔ Finder.MatchesCell finder c cell := by
  rw [h.isMatched_eq, matchIn?_isSome_iff]

theorem matchCount_ne_zero_iff (h : Shows finder c id cell context) :
    context.matchCount ≠ 0 ↔ context.isMatched := by
  cases h with
  | found h =>
    have hmatched : context.isMatched = true := by
      rw [(Shows.found h).isMatched_eq, h]
      rfl
    exact iff_of_true (matchCount_of_matchIn? h) hmatched
  | value h label => simp [Context.ofValue, Context.matchCount, Context.spans, Context.isMatched]

theorem sameButLabel {other : Context} (h : Shows finder c id cell context)
    (hother : Shows finder c id cell other) : context.SameButLabel other := by
  cases h with
  | found h =>
    cases hother with
    | found hother =>
      obtain rfl := Option.some.inj (h.symm.trans hother)
      exact .refl _
    | value hother label => cases h.symm.trans hother
  | value h label =>
    cases hother with
    | found hother => cases h.symm.trans hother
    | value hother label' => exact Context.ofValue_sameButLabel _ _ _ _

end Shows

end Cell

/-- What a hit shows of one column: what is displayed of the cell, as a match exactly if the phrase
matches there. -/
structure ShowsCell (row : Row) (finder : Option Finder) (c : Column)
    (shown : String × Context) : Prop where
  column : shown.1 = c.id
  content : shown.2.content = (row.get c.id).display
  isMatched : shown.2.isMatched ↔ Finder.MatchesCell finder c (row.get c.id)

/-- What a hit shows of a row. -/
structure Faithful (schema : Schema) (row : Row) (finder : Option Finder) (h : Hit) : Prop where
  cells : List.Forall₂ (ShowsCell row finder) schema.columns h.columns
  ids : h.columns.map (·.2.id) = List.range schema.columns.length
  matchCount : h.matchCount = (h.columns.map (·.2.matchCount)).sum
  isMatched : h.isMatched ↔ ∃ shown ∈ h.columns, shown.2.isMatched

/-- Hits that differ in the labels of their contexts at most. -/
structure SameButLabels (h k : Hit) : Prop where
  rowId : h.rowId = k.rowId
  title : h.title = k.title
  source : h.source = k.source
  schemaName : h.schemaName = k.schemaName
  columns : List.Forall₂ (fun a b => a.1 = b.1 ∧ a.2.SameButLabel b.2) h.columns k.columns
  matchCount : h.matchCount = k.matchCount
  isMatched : h.isMatched = k.isMatched

section Contexts

variable {σ τ : Type} (label : Column → Value → StateM σ String)
  (label' : Column → Value → StateM τ String) (row : Row) (finder : Option Finder)

theorem contextBy_shows (c : Column) (id count : Nat) (cell : Value) (st : σ) :
    Shows finder c id cell (contextBy label finder c id count cell st).1.2 := by
  unfold contextBy
  cases h : matchIn? finder c id cell with
  | none => exact .value h _
  | some context => exact .found h

/-- Each column has a context, and they are numbered one after the other. -/
theorem contextsBy_shows (id count : Nat) (columns : List Column) (st : σ) :
    List.Forall₂ (fun c shown => shown.1 = c.1.id ∧
      Shows finder c.1 c.2 (row.get c.1.id) shown.2) (columns.zipIdx id)
      (contextsBy label row finder id count columns st).1.2 := by
  induction columns generalizing id count st with
  | nil => exact .nil
  | cons c cs ih =>
    rw [List.zipIdx_cons]
    exact .cons ⟨rfl, contextBy_shows label finder c id count (row.get c.id) st⟩ (ih (id + 1) _ _)

/-- What the columns add to the count is the sum of what their contexts count. -/
theorem contextsBy_count (id count : Nat) (columns : List Column) (st : σ) :
    (contextsBy label row finder id count columns st).1.1 =
      count + ((contextsBy label row finder id count columns st).1.2.map (·.2.matchCount)).sum := by
  induction columns generalizing id count st with
  | nil => rfl
  | cons c cs ih =>
    let first := contextBy label finder c id count (row.get c.id) st
    let rest := contextsBy label row finder (id + 1) first.1.1 cs first.2
    have hfirst : first.1.1 = count + first.1.2.matchCount := contextBy_count label finder c id ..
    have hrest : rest.1.1 = first.1.1 + (rest.1.2.map (·.2.matchCount)).sum := ih ..
    change rest.1.1 = count + (first.1.2.matchCount + (rest.1.2.map (·.2.matchCount)).sum)
    omega

theorem faithful_of_shows {schema : Schema} {h : Hit}
    (hshows : List.Forall₂ (fun c shown => shown.1 = c.1.id ∧
      Shows finder c.1 c.2 (row.get c.1.id) shown.2) (schema.columns.zipIdx 0) h.columns)
    (hsum : h.matchCount = (h.columns.map (·.2.matchCount)).sum) :
    h.Faithful schema row finder := by
  have hcells : List.Forall₂ (ShowsCell row finder) ((schema.columns.zipIdx 0).map (·.1))
      h.columns := by
    refine List.forall₂_map_left_iff.mpr (hshows.imp ?_)
    rintro c shown ⟨hcolumn, hshown⟩
    exact ⟨hcolumn, hshown.content_eq, hshown.isMatched_iff⟩
  have hids : List.Forall₂ (· = ·) ((schema.columns.zipIdx 0).map (·.2))
      (h.columns.map (·.2.id)) := by
    refine List.forall₂_map_left_iff.mpr (List.forall₂_map_right_iff.mpr (hshows.imp ?_))
    exact fun c shown hshown => hshown.2.id_eq.symm
  have hcount : ∀ shown ∈ h.columns, shown.2.matchCount ≠ 0 ↔ shown.2.isMatched := by
    refine (List.forall₂_and_left (R := fun _ _ => True) _ (schema.columns.zipIdx 0)).mp ?_ |>.1
    exact List.Forall₂.flip (hshows.imp fun c shown hshown =>
      ⟨hshown.2.matchCount_ne_zero_iff, trivial⟩)
  refine ⟨?_, ?_, hsum, ?_⟩
  · rwa [List.zipIdx_map_fst] at hcells
  · rw [List.forall₂_eq_eq_eq, List.zipIdx_map_snd] at hids
    rw [← hids, List.range_eq_range']
  · rw [isMatched, bne_iff_ne, hsum, ne_eq, List.sum_eq_zero_iff_forall_eq_nat]
    simp only [List.mem_map, forall_exists_index, and_imp, forall_apply_eq_imp_iff₂, not_forall,
      exists_prop]
    exact exists_congr fun shown => and_congr_right fun hshown => hcount shown hshown

theorem contextsBy_sameButLabel (id count count' : Nat) (columns : List Column) (st : σ) (st' : τ) :
    List.Forall₂ (fun a b => a.1 = b.1 ∧ a.2.SameButLabel b.2)
      (contextsBy label row finder id count columns st).1.2
      (contextsBy label' row finder id count' columns st').1.2 := by
  induction columns generalizing id count count' st st' with
  | nil => exact .nil
  | cons c cs ih =>
    have hleft := contextBy_shows label finder c id count (row.get c.id) st
    have hright := contextBy_shows label' finder c id count' (row.get c.id) st'
    exact .cons ⟨rfl, hleft.sameButLabel hright⟩ (ih (id + 1) _ _ _ _)

theorem labelledBy_count (s : Source) (st : σ) :
    (labelledBy label s row finder st).1.matchCount =
      ((labelledBy label s row finder st).1.columns.map (·.2.matchCount)).sum := by
  have hcount := contextsBy_count label row finder 0 0 s.schema.columns st
  rwa [Nat.zero_add] at hcount

end Contexts

theorem sum_eq_of_columns {columns columns' : List (String × Context)}
    (h : List.Forall₂ (fun a b => a.1 = b.1 ∧ a.2.SameButLabel b.2) columns columns') :
    (columns.map (·.2.matchCount)).sum = (columns'.map (·.2.matchCount)).sum := by
  congr 1
  rw [← List.forall₂_eq_eq_eq]
  refine List.forall₂_map_left_iff.mpr (List.forall₂_map_right_iff.mpr (h.imp ?_))
  exact fun a b hab => congrArg List.length hab.2.spans

/-- However the values of a row are labelled, the hit has one context for each column of the schema,
in its order and numbered from zero; each holds what is displayed of its cell and is a match exactly
where the phrase matches; the matches are counted over all of them. Another way to label the values
changes labels only. A result labels them by the rules of its source, where a look-up in the store
may fail. -/
theorem labelledBy_faithful {σ τ : Type} (label : Column → Value → StateM σ String)
    (label' : Column → Value → StateM τ String) (s : Source) (row : Row) (finder : Option Finder)
    (st : σ) (st' : τ) :
    (labelledBy label s row finder st).1.Faithful s.schema row finder ∧
      (labelledBy label s row finder st).1.SameButLabels (labelledBy label' s row finder st').1 ∧
      ∀ [Store σ], (ofRow s row finder : StateM σ Hit) = labelledBy s.labelOf s row finder := by
  have hcount := labelledBy_count label row finder s st
  have hcolumns := contextsBy_sameButLabel label label' row finder 0 0 0 s.schema.columns st st'
  have hsame : (labelledBy label s row finder st).1.matchCount =
      (labelledBy label' s row finder st').1.matchCount := by
    rw [hcount, labelledBy_count label' row finder s st']
    exact sum_eq_of_columns hcolumns
  refine ⟨?_, ⟨rfl, rfl, rfl, rfl, hcolumns, hsame, ?_⟩, rfl⟩
  · exact faithful_of_shows row finder (contextsBy_shows label row finder 0 0 s.schema.columns st)
      hcount
  · rw [isMatched, hsame]
    rfl

end Hit

end TableSearch
