import TableSearch.Proofs.Access
import TableSearch.Proofs.Dict
import TableSearch.Store.Memory

/-!
# Tables in memory keep rows under their ids

A store in memory is what insertions, updates and deletions make of a store without tables. Every
row of such a store is filed under its own id, so the rows of a table come in strictly increasing
order of their ids. Reading a store in memory never fails and leaves it as it is.
-/
namespace TableSearch

namespace Memory

section Reading

variable (m : Memory) (table : TableRef)

theorem select_apply (conditions : List Condition) (limit offset : Int) :
    Store.select table conditions limit offset m =
      (.ok (m.select table conditions limit offset), m) := rfl

theorem fetch_apply (id : Int64) : Store.fetch table id m = (.ok (m.fetch table id), m) := rfl

theorem delete_apply (id : Int64) :
    Store.delete table id m = (.ok (m.fetch table id).isSome, (m.delete table id).2) := by
  change (Except.ok (m.delete table id).1, (m.delete table id).2) = _
  unfold delete
  cases m.fetch table id <;> rfl

end Reading

theorem rows_insert_table (m : Memory) (name table : String) (new : Rows) :
    rows { tables := m.tables.insert name new } table =
      if table = name then new else m.rows table := by
  unfold rows
  by_cases h : table = name
  · rw [if_pos h, h, Dict.get?_insert_self, Option.getD_some]
  · rw [if_neg h, Dict.get?_insert_of_ne _ _ h]

/-- Every row is filed under its own id. -/
def Filed (m : Memory) : Prop := ∀ table, ∀ e ∈ (m.rows table).toList, e.2.id = e.1

/-- What insertions, updates and deletions make of a store without tables. -/
inductive Built : Memory → Prop
  | empty : Built {}
  | insert {m : Memory} (table : TableRef) (row : Row) : Built m → Built (m.insert table row)
  | update {m : Memory} (table : TableRef) (row : Row) : Built m → Built (m.update table row).2
  | delete {m : Memory} (table : TableRef) (id : Int64) : Built m → Built (m.delete table id).2

theorem Filed.insert_table {m : Memory} (h : m.Filed) (name : String) {new : Rows}
    (hnew : ∀ e ∈ new.toList, e.2.id = e.1) :
    Filed { tables := m.tables.insert name new } := by
  intro table e he
  rw [rows_insert_table] at he
  split at he
  · exact hnew e he
  · exact h table e he

theorem Filed.insert {m : Memory} (h : m.Filed) (table : TableRef) (row : Row) :
    (m.insert table row).Filed := by
  apply h.insert_table
  intro e he
  rcases Dict.mem_insert he with rfl | he
  · rfl
  · exact h table.name e he

theorem Filed.id_eq_of_fetch {m : Memory} (h : m.Filed) {table : TableRef} {id : Int64} {row : Row}
    (hf : m.fetch table id = some row) : row.id = id :=
  h table.name (id, row) (Dict.get?_eq_some_iff.mp hf)

theorem Filed.update {m : Memory} (h : m.Filed) (table : TableRef) (row : Row) :
    (m.update table row).2.Filed := by
  unfold Memory.update
  cases hf : m.fetch table row.id with
  | none => exact h
  | some existing =>
    apply h.insert_table
    intro e he
    rcases Dict.mem_insert he with rfl | he
    · exact (h.id_eq_of_fetch hf : existing.id = row.id)
    · exact h table.name e he

theorem Filed.delete {m : Memory} (h : m.Filed) (table : TableRef) (id : Int64) :
    (m.delete table id).2.Filed := by
  unfold Memory.delete
  cases m.fetch table id with
  | none => exact h
  | some existing =>
    apply h.insert_table
    intro e he
    exact h table.name e (List.mem_filter.mp he).1

theorem Built.filed {m : Memory} (h : Built m) : m.Filed := by
  induction h with
  | empty =>
    intro table e he
    exact absurd he List.not_mem_nil
  | insert table row _ ih => exact ih.insert table row
  | update table row _ ih => exact ih.update table row
  | delete table id _ ih => exact ih.delete table id

theorem Filed.get?_of_mem_values {m : Memory} (h : m.Filed) {table : String} {row : Row}
    (hrow : row ∈ (m.rows table).values) : (m.rows table).get? row.id = some row := by
  obtain ⟨⟨id, row⟩, he, rfl⟩ := List.mem_map.mp hrow
  rw [Dict.get?_eq_some_iff, h table _ he]
  exact he

theorem Filed.values_pairwise {m : Memory} (h : m.Filed) (table : String) :
    (m.rows table).values.Pairwise fun a b => a.id < b.id := by
  rw [Dict.values, List.pairwise_map]
  refine (m.rows table).sorted.imp_of_mem ?_
  intro a b ha hb hab
  rw [h table a ha, h table b hb]
  exact Std.compare_eq_lt.mp hab

section Updating

/-- An update overlays the cells of a row, except the one that identifies it. -/
theorem get?_write (row : Row) (idColumn : String) (changes : Changes) (column : String) :
    (write row idColumn changes).cells.get? column =
      if column = idColumn then row.cells.get? column
      else (changes.get? column).or (row.cells.get? column) := by
  unfold write
  dsimp only
  rw [Dict.get?_insertAll_toList, Dict.get?_filter]
  by_cases h : column = idColumn
  · rw [if_pos h, h]
    cases changes.get? idColumn <;> simp [Option.filter]
  · rw [if_neg h]
    cases changes.get? column <;> simp [h]

theorem update_eq {m : Memory} {table : TableRef} {row existing : Row}
    (h : m.fetch table row.id = some existing) :
    m.update table row = (true, ⟨m.tables.insert table.name
      ((m.rows table.name).insert row.id (write existing table.idColumn row.cells))⟩) := by
  unfold update
  rw [h]

theorem update_apply {m : Memory} {table : TableRef} {row existing : Row}
    (h : m.fetch table row.id = some existing) :
    Store.update table row m = (.ok true, (m.update table row).2) := by
  change (Except.ok (m.update table row).1, (m.update table row).2) = _
  rw [update_eq h]

theorem rows_update {m : Memory} {table : TableRef} (row : Row) {existing : Row}
    (h : m.fetch table row.id = some existing) (name : String) :
    (m.update table row).2.rows name =
      if name = table.name then
        (m.rows name).insert row.id (write existing table.idColumn row.cells)
      else m.rows name := by
  rw [update_eq h, rows_insert_table]
  split
  · rename_i hname
    rw [hname]
  · rfl

theorem get?_rows_update {m : Memory} {table : TableRef} {row existing : Row}
    (h : m.fetch table row.id = some existing) (name : String) (id : Int64) :
    ((m.update table row).2.rows name).get? id =
      if name = table.name ∧ id = row.id then some (write existing table.idColumn row.cells)
      else (m.rows name).get? id := by
  rw [rows_update row h]
  by_cases hn : name = table.name
  · by_cases hi : id = row.id
    · rw [if_pos hn, if_pos ⟨hn, hi⟩, hi, Dict.get?_insert_self]
    · rw [if_pos hn, if_neg fun hboth => hi hboth.2, Dict.get?_insert_of_ne _ _ hi]
  · rw [if_neg hn, if_neg fun hboth => hn hboth.1]

theorem rows_delete (m : Memory) (table : TableRef) (id : Int64) (name : String) :
    (m.delete table id).2.rows name =
      if name = table.name then (m.rows name).erase id else m.rows name := by
  unfold delete
  cases hrow : m.fetch table id with
  | none =>
    dsimp only
    split
    · rename_i hname
      rw [hname, Dict.erase_of_get?_eq_none hrow]
    · rfl
  | some row =>
    dsimp only
    rw [rows_insert_table]
    split
    · rename_i hname
      rw [hname]
    · rfl

end Updating

end Memory

end TableSearch
