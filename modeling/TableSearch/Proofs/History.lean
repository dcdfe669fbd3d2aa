import TableSearch.Proofs.Memory

/-!
# Histories of a store in memory

A history is a sequence of insertions, updates and deletions in which every call on a table names
the same id column. After any history the id of a row, the key that it is filed under and its cell
in the id column are one number, and a further call changes the row that it names and nothing else
(`sound_history`).
-/
namespace TableSearch.Memory

/-- A call that writes to a table. -/
inductive Call where
  | insert (table : String) (row : Row)
  | update (table : String) (row : Row)
  | delete (table : String) (id : Int64)

section History

variable (idColumn : String → String)

def tableOf (name : String) : TableRef := ⟨name, idColumn name⟩

def perform (m : Memory) : Call → Memory
  | .insert table row => m.insert (tableOf idColumn table) row
  | .update table row => (Store.update (tableOf idColumn table) row m).2
  | .delete table id => (Store.delete (tableOf idColumn table) id m).2

def history (calls : List Call) : Memory := calls.foldl (perform idColumn) {}

end History

/-- A store with the row of one id changed or removed, and every other row of every table as it
was. -/
structure Changed (m m' : Memory) (table : TableRef) (id : Int64) (row : Option Row) : Prop where
  row : m'.fetch table id = row
  others (name : String) (i : Int64) (h : ¬(name = table.name ∧ i = id)) :
    (m'.rows name).get? i = (m.rows name).get? i

/-- A row with cells written over those that it had, except the one in its id column. -/
structure Overwritten (idColumn : String) (changes : Cells) (old new : Row) : Prop where
  id : new.id = old.id
  cells (column : String) : new.cells.get? column =
    if column = idColumn then old.cells.get? column
    else (changes.get? column).or (old.cells.get? column)

section Step

variable (m : Memory) (table : TableRef)

theorem insert_changed (row : Row) :
    Changed m (m.insert table row) table row.id
      (some { row with cells := row.cells.insert table.idColumn (.integer row.id) }) where
  row := by
    rw [fetch, insert, rows_insert_table, if_pos rfl, Dict.get?_insert_self]
  others name i h := by
    rw [insert, rows_insert_table]
    split
    · rename_i hname
      have hid : i ≠ row.id := fun hi => h ⟨hname, hi⟩
      rw [Dict.get?_insert_of_ne _ _ hid, hname]
    · rfl

variable {m table}

theorem update_missing {row : Row} (h : m.fetch table row.id = none) :
    Store.update table row m = (.ok false, m) := by
  change (Except.ok (m.update table row).1, (m.update table row).2) = _
  unfold update
  rw [h]

theorem update_changed {row old : Row} (h : m.fetch table row.id = some old) :
    ∃ m' new, Store.update table row m = (.ok true, m') ∧
      Changed m m' table row.id (some new) ∧ Overwritten table.idColumn row.cells old new := by
  refine ⟨_, write old table.idColumn row.cells, update_apply h, ⟨?_, ?_⟩, ⟨rfl, ?_⟩⟩
  · rw [fetch, get?_rows_update h, if_pos ⟨rfl, rfl⟩]
  · intro name i hne
    rw [get?_rows_update h, if_neg hne]
  · exact get?_write old table.idColumn row.cells

theorem delete_missing {id : Int64} (h : m.fetch table id = none) :
    Store.delete table id m = (.ok false, m) := by
  change (Except.ok (m.delete table id).1, (m.delete table id).2) = _
  unfold delete
  rw [h]

theorem delete_changed {id : Int64} {old : Row} (h : m.fetch table id = some old) :
    ∃ m', Store.delete table id m = (.ok true, m') ∧ Changed m m' table id none := by
  refine ⟨_, by rw [delete_apply, h]; rfl, ⟨?_, ?_⟩⟩
  · rw [fetch, rows_delete, if_pos rfl, Dict.get?_erase_self]
  · intro name i hne
    rw [rows_delete]
    split
    · rename_i hname
      exact Dict.get?_erase_of_ne _ fun hi => hne ⟨hname, hi⟩
    · rfl

end Step

/-- The id of a row, the key that it is filed under and its cell in the id column agree. -/
structure Keyed (idColumn : String → String) (m : Memory) : Prop where
  id {table : String} {id : Int64} {row : Row}
    (h : m.fetch (tableOf idColumn table) id = some row) : row.id = id
  cell {table : String} {id : Int64} {row : Row}
    (h : m.fetch (tableOf idColumn table) id = some row) :
    row.cells.get? (idColumn table) = some (.integer id)

namespace Keyed

variable {idColumn : String → String} {m m' : Memory}

theorem empty : Keyed idColumn {} where
  id h := nomatch h
  cell h := nomatch h

/-- A change of one row keeps the agreement if it leaves a row that agrees, or none. -/
theorem of_changed (h : Keyed idColumn m) {table : String} {id : Int64} {new : Option Row}
    (hm : Changed m m' (tableOf idColumn table) id new)
    (hnew : ∀ row ∈ new, row.id = id ∧ row.cells.get? (idColumn table) = some (.integer id)) :
    Keyed idColumn m' := by
  have hboth {name : String} {i : Int64} {row : Row}
      (hrow : m'.fetch (tableOf idColumn name) i = some row) :
      row.id = i ∧ row.cells.get? (idColumn name) = some (.integer i) := by
    by_cases hsame : name = table ∧ i = id
    · obtain ⟨rfl, rfl⟩ := hsame
      rw [hm.row] at hrow
      exact hnew row hrow
    · have hold : m.fetch (tableOf idColumn name) i = some row :=
        (hm.others name i hsame).symm.trans hrow
      exact ⟨h.id hold, h.cell hold⟩
  exact ⟨fun hrow => (hboth hrow).1, fun hrow => (hboth hrow).2⟩

theorem insert (h : Keyed idColumn m) (table : String) (row : Row) :
    Keyed idColumn (m.insert (tableOf idColumn table) row) := by
  apply h.of_changed (insert_changed m (tableOf idColumn table) row)
  rintro new ⟨⟩
  exact ⟨rfl, Dict.get?_insert_self _ _ _⟩

theorem update (h : Keyed idColumn m) (table : String) (row : Row) :
    Keyed idColumn (Store.update (tableOf idColumn table) row m).2 := by
  cases hold : m.fetch (tableOf idColumn table) row.id with
  | none =>
    rw [update_missing hold]
    exact h
  | some old =>
    obtain ⟨m', new, hupdate, hm, hover⟩ := update_changed hold
    rw [hupdate]
    apply h.of_changed hm
    rintro new ⟨⟩
    have hcell : new.cells.get? (idColumn table) = old.cells.get? (idColumn table) :=
      (hover.cells _).trans (if_pos rfl)
    exact ⟨hover.id.trans (h.id hold), hcell.trans (h.cell hold)⟩

theorem delete (h : Keyed idColumn m) (table : String) (id : Int64) :
    Keyed idColumn (Store.delete (tableOf idColumn table) id m).2 := by
  cases hold : m.fetch (tableOf idColumn table) id with
  | none =>
    rw [delete_missing hold]
    exact h
  | some old =>
    obtain ⟨m', hdelete, hm⟩ := delete_changed hold
    rw [hdelete]
    apply h.of_changed hm
    rintro new ⟨⟩

theorem perform (h : Keyed idColumn m) (call : Call) :
    Keyed idColumn (m.perform idColumn call) := by
  cases call with
  | insert table row => exact h.insert table row
  | update table row => exact h.update table row
  | delete table id => exact h.delete table id

theorem filed (h : Keyed idColumn m) : m.Filed := fun _ _ he =>
  h.id (Dict.get?_eq_some_iff.mpr he)

end Keyed

theorem keyed_history (idColumn : String → String) (calls : List Call) :
    Keyed idColumn (history idColumn calls) := by
  suffices h : ∀ m, Keyed idColumn m → Keyed idColumn (calls.foldl (perform idColumn) m) from
    h {} .empty
  intro m hm
  induction calls generalizing m with
  | nil => exact hm
  | cons call calls ih => exact ih _ (hm.perform call)

theorem mem_select {m : Memory} (h : m.Filed) {table : TableRef} {conditions : List Condition}
    {limit offset : Int} {row : Row} (hrow : row ∈ m.select table conditions limit offset) :
    m.fetch table row.id = some row := by
  have hmatching := List.mem_of_mem_drop (List.mem_of_mem_take hrow)
  exact h.get?_of_mem_values (List.mem_filter.mp hmatching).1

theorem select_pairwise {m : Memory} (h : m.Filed) (table : TableRef)
    (conditions : List Condition) (limit offset : Int) :
    (m.select table conditions limit offset).Pairwise fun a b => a.id < b.id :=
  (h.values_pairwise table.name).sublist <|
    (List.take_sublist _ _).trans ((List.drop_sublist _ _).trans List.filter_sublist)

/-- What a store of keyed rows answers and becomes. -/
structure Sound (idColumn : String → String) (m : Memory) : Prop where
  keyed : Keyed idColumn m
  select (table : String) (conditions : List Condition) (limit offset : Int) :
    ∃ rows, Store.select (tableOf idColumn table) conditions limit offset m = (.ok rows, m) ∧
      (∀ row ∈ rows, m.fetch (tableOf idColumn table) row.id = some row) ∧
      rows.Pairwise fun a b => a.id < b.id
  insert (table : String) (row : Row) : ∃ new,
    Changed m (m.insert (tableOf idColumn table) row) (tableOf idColumn table) row.id (some new) ∧
      new.id = row.id ∧ ∀ column, new.cells.get? column =
        if column = idColumn table then some (.integer row.id) else row.cells.get? column
  update_missing (table : String) (row : Row)
    (h : m.fetch (tableOf idColumn table) row.id = none) :
    Store.update (tableOf idColumn table) row m = (.ok false, m)
  update_found (table : String) (row old : Row)
    (h : m.fetch (tableOf idColumn table) row.id = some old) :
    ∃ m' new, Store.update (tableOf idColumn table) row m = (.ok true, m') ∧
      Changed m m' (tableOf idColumn table) row.id (some new) ∧
      Overwritten (idColumn table) row.cells old new
  delete_missing (table : String) (id : Int64)
    (h : m.fetch (tableOf idColumn table) id = none) :
    Store.delete (tableOf idColumn table) id m = (.ok false, m)
  delete_found (table : String) (id : Int64) (old : Row)
    (h : m.fetch (tableOf idColumn table) id = some old) :
    ∃ m', Store.delete (tableOf idColumn table) id m = (.ok true, m') ∧
      Changed m m' (tableOf idColumn table) id none

theorem get?_insert_cell (cells : Cells) (column other : String) (v : Value) :
    (cells.insert column v).get? other = if other = column then some v else cells.get? other := by
  simp only [Dict.get?_insert, Std.compare_eq_iff_eq]

/-- Whatever was inserted, updated and deleted before: rows are filed under the ids that their id
columns show and are selected in the order of these ids, updates and deletions find a row exactly
if its id is filed, and no call changes more than the row that it names. -/
theorem sound_history (idColumn : String → String) (calls : List Call) :
    Sound idColumn (history idColumn calls) := by
  have hkeyed := keyed_history idColumn calls
  exact {
    keyed := hkeyed
    select := fun table conditions limit offset =>
      ⟨_, select_apply _ _ _ _ _, fun _ => mem_select hkeyed.filed,
        select_pairwise hkeyed.filed _ _ _ _⟩
    insert := fun table row =>
      ⟨_, insert_changed _ _ _, rfl, fun column => get?_insert_cell _ _ _ _⟩
    update_missing := fun _ _ => update_missing
    update_found := fun _ _ _ => update_changed
    delete_missing := fun _ _ => delete_missing
    delete_found := fun _ _ _ => delete_changed }

/-- A row is inserted over another one of its id, its id column is not written by an update, and a
deleted row is gone. -/
example :
    let row : Row := ⟨1, .ofList [("url", .text "/a"), ("id", .integer 9)]⟩
    let changes : Row := ⟨1, .ofList [("url", .text "/z"), ("id", .integer 50)]⟩
    let calls := [Call.insert "items" ⟨1, .empty⟩, .insert "items" row, .insert "items" ⟨2, .empty⟩,
      .update "items" changes, .delete "items" 2, .update "items" ⟨7, .empty⟩]
    ((history (fun _ => "id") calls).rows "items").toList =
      [(1, ⟨1, .ofList [("id", .integer 1), ("url", .text "/z")]⟩)] := by
  decide

end TableSearch.Memory
