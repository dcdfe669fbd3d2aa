import TableSearch.Hit
import TableSearch.Proofs.Memory
import TableSearch.Proofs.Query

/-!
# What hits show

However values are labelled, a hit is a match exactly where some searched cell of its row has a
match that is not empty. Assembling a hit over a store in memory reads it only.
-/
namespace TableSearch

section AnyLabels

theorem Context.matchCount_find? {id : Nat} {text : String} {f : Finder} {c : Context}
    (h : find? id text f = some c) : c.matchCount ≠ 0 := by
  unfold find? at h
  split at h
  · cases h
  · rename_i hs
    cases h
    intro hz
    exact hs (List.eq_nil_of_length_eq_zero hz)

theorem Context.find?_isSome (id : Nat) (text : String) (f : Finder) :
    (find? id text f).isSome = (f.matcher.matchesIn text.toList).any (!·.isEmpty) := by
  have hs : f.spans text =
      ((f.matcher.matchesIn text.toList).filter (!·.isEmpty)).map (f.spanOf text.toList) := rfl
  unfold find?
  cases hf : (f.matcher.matchesIn text.toList).filter (!·.isEmpty) with
  | nil =>
    have hany := List.filter_eq_nil_iff.mp hf
    rw [hs, hf]
    symm
    simpa using hany
  | cons first rest =>
    have hmem : first ∈ (f.matcher.matchesIn text.toList).filter (!·.isEmpty) := by
      rw [hf]
      exact List.mem_cons_self
    obtain ⟨hfirst, hne⟩ := List.mem_filter.mp hmem
    rw [hs, hf, List.any_eq_true.mpr ⟨first, hfirst, hne⟩]
    rfl

namespace Hit

theorem matchIn?_isSome (finder : Option Finder) (c : Column) (id : Nat) (cell : Value) :
    (matchIn? finder c id cell).isSome = finder.any fun f => c.global && f.occursIn cell := by
  cases finder with
  | none => rfl
  | some f =>
    simp only [matchIn?, Finder.occursIn, Option.any_some]
    cases c.global <;> cases cell.isNull <;> simp [Context.find?_isSome]

theorem matchCount_of_matchIn? {finder : Option Finder} {c : Column} {id : Nat} {cell : Value}
    {context : Context} (h : matchIn? finder c id cell = some context) :
    context.matchCount ≠ 0 := by
  unfold matchIn? at h
  split at h
  · cases h
  · split at h
    · exact Context.matchCount_find? h
    · cases h

variable {σ : Type} (label : Column → Value → StateM σ String)

/-- A cell adds to the count what its context counts. -/
theorem contextBy_count (finder : Option Finder) (c : Column) (id count : Nat) (cell : Value)
    (st : σ) :
    (contextBy label finder c id count cell st).1.1 =
      count + (contextBy label finder c id count cell st).1.2.matchCount := by
  unfold contextBy
  cases matchIn? finder c id cell with
  | none => rfl
  | some context => rfl

theorem contextBy_count_ne_zero_iff (finder : Option Finder) (c : Column) (id count : Nat)
    (cell : Value) (st : σ) :
    (contextBy label finder c id count cell st).1.1 ≠ 0 ↔
      count ≠ 0 ∨ (finder.any fun f => c.global && f.occursIn cell) = true := by
  rw [contextBy_count, ← matchIn?_isSome finder c id cell]
  unfold contextBy
  cases hm : matchIn? finder c id cell with
  | none => exact (or_iff_left Bool.false_ne_true).symm
  | some context =>
    have hcount : count + context.matchCount ≠ 0 := by
      have hne := matchCount_of_matchIn? hm
      omega
    exact iff_of_true hcount (.inr rfl)

theorem contextsBy_count_ne_zero_iff (row : Row) (finder : Option Finder) (id count : Nat)
    (columns : List Column) (st : σ) :
    (contextsBy label row finder id count columns st).1.1 ≠ 0 ↔
      count ≠ 0 ∨
        ∃ c ∈ columns, (finder.any fun f => c.global && f.occursIn (row.get c.id)) = true := by
  induction columns generalizing id count st with
  | nil =>
    have hcount : (contextsBy label row finder id count [] st).1.1 = count := rfl
    simp [hcount]
  | cons c cs ih =>
    have hc := contextBy_count_ne_zero_iff label finder c id count (row.get c.id) st
    have hstep : (contextsBy label row finder id count (c :: cs) st).1.1 =
        (contextsBy label row finder (id + 1)
          (contextBy label finder c id count (row.get c.id) st).1.1 cs
          (contextBy label finder c id count (row.get c.id) st).2).1.1 := rfl
    simp only [List.mem_cons, exists_eq_or_imp]
    rw [hstep, ih, hc, or_assoc]

theorem isMatched_labelledBy (s : Source) (row : Row) (f : Finder) (st : σ) :
    (labelledBy label s row (some f) st).1.isMatched = f.occurs s.schema row := by
  have hcount : (labelledBy label s row (some f) st).1.matchCount =
      (contextsBy label row (some f) 0 0 s.schema.columns st).1.1 := rfl
  rw [Bool.eq_iff_iff, isMatched, hcount, bne_iff_ne, contextsBy_count_ne_zero_iff]
  unfold Finder.occurs Schema.globalColumns
  rw [List.any_filter, List.any_eq_true, or_iff_right (fun h => h rfl)]
  rfl

end Hit

end AnyLabels

section InMemory

variable (m : Memory)

theorem Source.labelOf_snd (s : Source) (c : Column) (v : Value) : (s.labelOf c v m).2 = m := by
  unfold labelOf
  cases s.labelRule c with
  | raw => rfl
  | options => rfl
  | renamed text label => rfl
  | lookup labels =>
    have hlookup : (Store.lookup labels v).attempt m = (.ok (m.lookup labels v), m) := rfl
    dsimp only
    rw [bind_state hlookup]
    cases m.lookup labels v <;> rfl

namespace Hit

theorem contextBy_snd (s : Source) (finder : Option Finder) (c : Column) (id count : Nat)
    (cell : Value) : (contextBy s.labelOf finder c id count cell m).2 = m := by
  unfold contextBy
  cases matchIn? finder c id cell with
  | some context => rfl
  | none => exact s.labelOf_snd m c cell

theorem contextsBy_snd (s : Source) (row : Row) (finder : Option Finder) (id count : Nat)
    (columns : List Column) : (contextsBy s.labelOf row finder id count columns m).2 = m := by
  induction columns generalizing id count with
  | nil => rfl
  | cons c cs ih =>
    have hstep : (contextsBy s.labelOf row finder id count (c :: cs) m).2 =
        (contextsBy s.labelOf row finder (id + 1)
          (contextBy s.labelOf finder c id count (row.get c.id) m).1.1 cs
          (contextBy s.labelOf finder c id count (row.get c.id) m).2).2 := rfl
    rw [hstep, contextBy_snd, ih]

def shown (s : Source) (finder : Option Finder) (row : Row) : Hit := (ofRow s row finder m).1

theorem ofRow_apply (s : Source) (row : Row) (finder : Option Finder) :
    ofRow s row finder m = (shown m s finder row, m) := by
  have hsnd : (ofRow s row finder m).2 = m := contextsBy_snd m s row finder 0 0 s.schema.columns
  exact Prod.ext rfl hsnd

end Hit

end InMemory

end TableSearch
