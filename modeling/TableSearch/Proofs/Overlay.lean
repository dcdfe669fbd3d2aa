import Mathlib.Data.List.Sort
import TableSearch.Proofs.Memory

/-!
# Cells written over those of a store

A store with cells written over those that it had keeps its tables and its rows. Main statement:
the cells that were written last decide what the store is (`Memory.Overlaid.unique`).
-/
namespace TableSearch

theorem Dict.ext_get? {κ : Type} [Ord κ] [Std.LawfulEqOrd κ] [Std.TransOrd κ] {α : Type}
    {d e : Dict κ α} (h : ∀ k, d.get? k = e.get? k) : d = e := by
  have hmem : ∀ entry, entry ∈ d.toList ↔ entry ∈ e.toList := by
    rintro ⟨k, a⟩
    rw [← get?_eq_some_iff, ← get?_eq_some_iff, h]
  let before (a b : κ × α) : Prop := compare a.1 b.1 = .lt
  have hirrefl : Std.Irrefl before := ⟨fun a hlt => by simp [before] at hlt⟩
  have hantisymm : Std.Antisymm before :=
    ⟨fun a b hlt hgt => nomatch (Std.OrientedCmp.gt_of_lt hlt).symm.trans hgt⟩
  have hlist : d.toList = e.toList :=
    List.Pairwise.eq_of_mem_iff (r := before) d.sorted e.sorted hmem
  cases d
  cases e
  cases hlist
  rfl

namespace Memory

/-- What a store is after cells were written over those that it had before. -/
structure Overlaid (before : Memory) (written : String → Int64 → String → Option Value)
    (after : Memory) : Prop where
  tables (name : String) : (after.tables.get? name).isSome = (before.tables.get? name).isSome
  absent {name : String} {id : Int64} (h : (before.rows name).get? id = none) :
    (after.rows name).get? id = none
  present {name : String} {id : Int64} {row : Row} (h : (before.rows name).get? id = some row) :
    ∃ row', (after.rows name).get? id = some row' ∧ row'.id = row.id ∧
      ∀ column, row'.cells.get? column = (written name id column).or (row.cells.get? column)

namespace Overlaid

variable {before m m' : Memory} {written written' : String → Int64 → String → Option Value}

theorem refl (before : Memory) : Overlaid before (fun _ _ _ => none) before where
  tables _ := rfl
  absent h := h
  present h := ⟨_, h, rfl, fun _ => rfl⟩

theorem congr (h : Overlaid before written m)
    (hwritten : ∀ {name id row}, (before.rows name).get? id = some row →
      ∀ column, written name id column = written' name id column) :
    Overlaid before written' m where
  tables := h.tables
  absent := h.absent
  present hrow := by
    obtain ⟨row', hrow', hid, hcells⟩ := h.present hrow
    exact ⟨row', hrow', hid, fun column => by rw [hcells, hwritten hrow]⟩

/-- An update writes over what was written before. -/
theorem update (h : Overlaid before written m) {table : TableRef} {id : Int64} {row : Row}
    {changes : Changes} (hrow : m.fetch table id = some row)
    (hid : changes.get? table.idColumn = none) :
    Overlaid before
      (fun name i column =>
        if name = table.name ∧ i = id then (changes.get? column).or (written name i column)
        else written name i column)
      (m.update table ⟨id, changes⟩).2 where
  tables name := by
    have hrow' : m.fetch table (Row.mk id changes).id = some row := hrow
    rw [update_eq hrow', ← h.tables name]
    dsimp only
    by_cases hname : name = table.name
    · have htable : (m.tables.get? name).isSome = true := by
        rw [Option.isSome_iff_ne_none]
        intro hnone
        rw [fetch, rows, ← hname, hnone] at hrow
        cases hrow
      rw [htable, hname, Dict.get?_insert_self]
      rfl
    · rw [Dict.get?_insert_of_ne _ _ hname]
  absent {name i} hnone := by
    have hnone' := h.absent hnone
    rw [@get?_rows_update m table ⟨id, changes⟩ row hrow, if_neg, hnone']
    rintro ⟨rfl, rfl⟩
    rw [fetch, hnone'] at hrow
    cases hrow
  present {name i old} hold := by
    obtain ⟨row', hrow', hid', hcells⟩ := h.present hold
    rw [@get?_rows_update m table ⟨id, changes⟩ row hrow]
    split
    · rename_i hsame
      obtain ⟨rfl, rfl⟩ := hsame
      obtain rfl : row' = row := Option.some.inj (hrow'.symm.trans hrow)
      refine ⟨_, rfl, hid', fun column => ?_⟩
      rw [get?_write, hcells]
      split
      · rename_i hcolumn
        rw [hcolumn, hid]
        rfl
      · rw [Option.or_assoc]
    · exact ⟨row', hrow', hid', hcells⟩

/-- Two stores with the same cells written last are the same. -/
theorem unique (h : Overlaid before written m) (h' : Overlaid before written m') : m = m' := by
  have hrows (name : String) : m.rows name = m'.rows name := by
    apply Dict.ext_get?
    intro id
    cases hrow : (before.rows name).get? id with
    | none => rw [h.absent hrow, h'.absent hrow]
    | some row =>
      obtain ⟨⟨id₁, cells₁⟩, hrow₁, hid₁, hcells₁⟩ := h.present hrow
      obtain ⟨⟨id₂, cells₂⟩, hrow₂, hid₂, hcells₂⟩ := h'.present hrow
      have hcells : cells₁ = cells₂ :=
        Dict.ext_get? fun column => (hcells₁ column).trans (hcells₂ column).symm
      have hid : id₁ = id₂ := hid₁.trans hid₂.symm
      rw [hrow₁, hrow₂, hcells, hid]
  have htables : m.tables = m'.tables := by
    apply Dict.ext_get?
    intro name
    have hsome : (m.tables.get? name).isSome = (m'.tables.get? name).isSome :=
      (h.tables name).trans (h'.tables name).symm
    have hname := hrows name
    unfold rows at hname
    cases htable : m.tables.get? name with
    | none =>
      rw [htable] at hsome
      exact (Option.isNone_iff_eq_none.mp (by simpa using hsome.symm)).symm
    | some table =>
      rw [htable] at hsome hname
      obtain ⟨table', htable'⟩ := Option.isSome_iff_exists.mp hsome.symm
      rw [htable'] at hname
      rw [htable']
      exact congrArg some hname
  cases m
  cases m'
  exact congrArg Memory.mk htables

end Overlaid

end Memory

end TableSearch
