import TableSearch.Proofs.Config
import TableSearch.Proofs.Mutation

/-!
# What a replacement reports and what it writes

A replacement reports the searched columns that may be changed and whose text it changes. All of
them are written and audited, except the column that identifies the row: saving drops it, yet the
report has it.
-/
namespace TableSearch

/-- The value that a phrase puts in place of a cell, if it changes the text of the cell. -/
def Finder.edit? (f : Finder) (cell : Value) : Option Value :=
  if cell.isNull then none
  else
    match f.replaceAll cell.display with
    | .ok replaced => if replaced = cell.display then none else some (.text replaced)
    | .error _ => none

/-- A session in which changes were written to a row of a source: the row has them, nothing else
has changed, and the audit trail has one more entry, if there is any change. -/
structure Wrote (s : Source) (rowId : Int64) (changes : Changes) (before after : Session Memory) :
    Prop where
  row : ∃ old new, before.store.fetch s.table rowId = some old ∧
    after.store.fetch s.table rowId = some new ∧ new.id = old.id ∧
    ∀ column, new.cells.get? column = (changes.get? column).or (old.cells.get? column)
  others : ∀ table id, table ≠ s.schema.table ∨ id ≠ rowId →
    (after.store.rows table).get? id = (before.store.rows table).get? id
  audit : after.audit = before.audit ++
    if changes.isEmpty then [] else [⟨s.saveAction, s.name, rowId, changes⟩]

namespace Wrote

variable {s : Source} {rowId : Int64} {changes : Changes} {before : Session Memory} {old : Row}

theorem of_isEmpty (hrow : before.store.fetch s.table rowId = some old)
    (hempty : changes.isEmpty = true) : Wrote s rowId changes before before := by
  refine ⟨⟨old, old, hrow, hrow, rfl, ?_⟩, fun _ _ _ => rfl, ?_⟩
  · intro column
    rw [Dict.get?_of_isEmpty hempty, Option.none_or]
  · rw [if_pos hempty, List.append_nil]

theorem of_update (hrow : before.store.fetch s.table rowId = some old)
    (hempty : changes.isEmpty = false) (hid : changes.get? s.idColumn = none) :
    Wrote s rowId changes before
      ⟨(before.store.update s.table ⟨rowId, changes⟩).2,
        before.audit ++ [⟨s.saveAction, s.name, rowId, changes⟩]⟩ := by
  have hget (table : String) (id : Int64) :
      ((before.store.update s.table ⟨rowId, changes⟩).2.rows table).get? id =
        if table = s.table.name ∧ id = rowId then some (Memory.write old s.idColumn changes)
        else (before.store.rows table).get? id :=
    Memory.get?_rows_update hrow table id
  refine ⟨⟨old, Memory.write old s.idColumn changes, hrow, ?_, rfl, ?_⟩, ?_, ?_⟩
  · change ((before.store.update s.table ⟨rowId, changes⟩).2.rows s.table.name).get? rowId = _
    rw [hget, if_pos ⟨rfl, rfl⟩]
  · intro column
    rw [Memory.get?_write]
    split
    · rename_i hcolumn
      rw [hcolumn, hid, Option.none_or]
    · rfl
  · intro table id hother
    have hne : ¬(table = s.table.name ∧ id = rowId) := fun hboth =>
      hother.elim (fun hn => hn hboth.1) fun hn => hn hboth.2
    change ((before.store.update s.table ⟨rowId, changes⟩).2.rows table).get? id = _
    rw [hget, if_neg hne]
  · rw [hempty]
    rfl

theorem unique {after : Session Memory} {others : Changes} (h : Wrote s rowId changes before after)
    (ho : Wrote s rowId others before after) (hempty : changes.isEmpty = false) :
    others = changes := by
  have haudit := ho.audit.symm.trans h.audit
  rw [hempty] at haudit
  have htrail := List.append_cancel_left haudit
  split at htrail
  · cases htrail
  · simpa using htrail

end Wrote

namespace Source

variable {s : Source} {rowId : Int64} {before after : Session Memory} {changes : Changes}

theorem accepted_idColumn : (s.accepted changes).get? s.idColumn = none := by
  unfold accepted takes
  rw [Dict.get?_filter]
  cases changes.get? s.idColumn <;> simp

theorem save_wrote (hm : before.store.Built) (changes : Changes) {old : Row}
    (hrow : before.store.fetch s.table rowId = some old) :
    ∃ after, s.save .allowed rowId changes before = (.ok (), after) ∧
      Wrote s rowId (s.accepted changes) before after := by
  rw [save_inMemory hm.filed, hrow]
  cases hempty : (s.accepted changes).isEmpty with
  | true => exact ⟨before, rfl, .of_isEmpty hrow hempty⟩
  | false => exact ⟨_, rfl, .of_update hrow hempty accepted_idColumn⟩

theorem replacements_cons {f : Finder} {row : Row} {c : Column} {columns : List Column}
    (h : replacements f row (c :: columns) = .ok changes) :
    ∃ rest, replacements f row columns = .ok rest ∧
      changes = ((f.edit? (row.get c.id)).map (rest.insert c.id)).getD rest := by
  obtain ⟨rest, hrest, h⟩ := exists_of_bind_eq_ok h
  refine ⟨rest, hrest, ?_⟩
  unfold Finder.edit?
  dsimp only at h
  split at h
  · rename_i hnull
    cases h
    rw [if_pos hnull]
    rfl
  · rename_i hnull
    obtain ⟨replaced, hreplaced, h⟩ := exists_of_bind_eq_ok h
    rw [if_neg hnull, hreplaced]
    dsimp only
    split at h
    · rename_i hsame
      cases h
      rw [if_pos hsame]
      rfl
    · rename_i hsame
      cases h
      rw [if_neg hsame]
      rfl

/-- A replacement changes the given columns whose text the phrase changes. -/
theorem get?_replacements {f : Finder} {row : Row} {columns : List Column}
    (h : replacements f row columns = .ok changes) (column : String) :
    changes.get? column =
      if column ∈ columns.map (·.id) then f.edit? (row.get column) else none := by
  induction columns generalizing changes with
  | nil =>
    cases h
    rfl
  | cons c cs ih =>
    obtain ⟨rest, hrest, rfl⟩ := replacements_cons h
    have hget := ih hrest
    simp only [List.map_cons, List.mem_cons]
    by_cases hc : column = c.id
    · subst hc
      cases he : f.edit? (row.get c.id) with
      | some v => simp [Dict.get?_insert_self]
      | none =>
        rw [he] at hget
        simpa using hget
    · cases he : f.edit? (row.get c.id) with
      | some v =>
        simp only [Option.map_some, Option.getD_some, hc, false_or]
        rw [Dict.get?_insert_of_ne _ _ hc, hget]
      | none => simpa [hc] using hget

/-- What a replacement that gave changes has done. -/
theorem replace_cases {gate : Gate} {phrase : Phrase}
    (h : s.replace gate rowId phrase before = (.ok changes, after)) :
    ∃ f row, phrase.compile = .ok f ∧ before.store.fetch s.table rowId = some row ∧
      replacements f row (s.schema.globalColumns.filter (·.modify)) = .ok changes ∧
      s.save gate rowId changes before = (.ok (), after) := by
  have houtcome : EditsOutcome s rowId phrase before.store _ := edits_outcome before.store
  rw [replace_inMemory] at h
  generalize s.edits rowId phrase before.store = found at h houtcome
  cases houtcome with
  | malformed hphrase => cases h
  | bare hphrase hf => cases h
  | missing hphrase hf hfetch hmissing => cases h
  | @found f row read found hphrase hf hfetch hchanges =>
    obtain ⟨hrow, rfl⟩ := found_inMemory hfetch
    obtain ⟨hresult, hafter⟩ := Prod.mk.inj h
    rcases hsave : s.save gate rowId found before with ⟨_ | _, saved⟩
    · rw [hsave] at hresult
      cases hresult
    · rw [hsave] at hresult hafter
      cases hresult
      exact ⟨f, row, hphrase, hrow, hchanges, hafter ▸ hsave⟩

section Valid

variable {c : Config} {phrase : Phrase}

theorem mem_replaced_iff (schema : Schema) (id : String) :
    id ∈ (schema.globalColumns.filter (·.modify)).map (·.id) ↔
      ∃ column ∈ schema.columns,
        column.id = id ∧ column.global = true ∧ column.modify = true := by
  simp only [Schema.globalColumns, List.mem_map, List.mem_filter]
  constructor
  · rintro ⟨column, ⟨⟨hmem, hglobal⟩, hmodify⟩, hid⟩
    exact ⟨column, hmem, hid, hglobal, hmodify⟩
  · rintro ⟨column, hmem, hid, hglobal, hmodify⟩
    exact ⟨column, ⟨⟨hmem, hglobal⟩, hmodify⟩, hid⟩

/-- Of the changes that a replacement finds, saving drops that of the column which identifies the
row and no other. -/
theorem accepted_replacements (hnodup : s.schema.columnIds.Nodup) {f : Finder} {row : Row}
    (h : replacements f row s.replaceable = .ok changes) :
    s.accepted changes = changes.erase s.idColumn := by
  refine Dict.filter_congr ?_
  intro e he
  have hget := get?_replacements h e.1
  rw [Dict.get?_eq_some_iff.mpr he] at hget
  split at hget
  · rename_i hmem
    obtain ⟨column, hcolumn, hid, -, hmodify⟩ := (mem_replaced_iff s.schema e.1).mp hmem
    have hfound := Schema.column?_eq_some hnodup hcolumn
    rw [hid] at hfound
    rw [takes, hfound, Option.map_some, hmodify, Option.getD_some, Bool.and_true]
    rw [Bool.eq_iff_iff, bne_iff_ne, bne_iff_ne, ne_eq, ne_eq, Std.compare_eq_iff_eq, eq_comm]
  · cases hget

theorem accepted_eq_erase (hc : c.error? = none) (hs : s ∈ c.sources) {f : Finder} {row : Row}
    (h : replacements f row (s.schema.globalColumns.filter (·.modify)) = .ok changes) :
    s.accepted changes = changes.erase s.idColumn :=
  accepted_replacements (Config.nodup_columnIds hc hs) h

/-- A replacement that reports changes has written them all, except the one of the column that
identifies the row. The report has such a change exactly if the column is declared as searched and
changeable and the phrase changes its text; then the report is more than what was written. -/
theorem replace_wrote (hc : c.error? = none) (hs : s ∈ c.sources) (hm : before.store.Built)
    (h : s.replace .allowed rowId phrase before = (.ok changes, after)) :
    Wrote s rowId (changes.erase s.idColumn) before after ∧
      (Wrote s rowId changes before after ↔ changes.get? s.idColumn = none) ∧
      ∃ f row, phrase.compile = .ok f ∧ before.store.fetch s.table rowId = some row ∧
        changes.get? s.idColumn =
          if ∃ column ∈ s.schema.columns,
            column.id = s.idColumn ∧ column.global = true ∧ column.modify = true
          then f.edit? (row.get s.idColumn) else none := by
  obtain ⟨f, row, hf, hrow, hr, hsave⟩ := replace_cases h
  have herase := accepted_eq_erase hc hs hr
  obtain ⟨saved, hsaved, hwrote⟩ := save_wrote hm changes hrow
  rw [hsave] at hsaved
  cases hsaved
  rw [herase] at hwrote
  refine ⟨hwrote, ⟨?_, ?_⟩, f, row, hf, hrow, ?_⟩
  · intro hall
    cases hempty : changes.isEmpty with
    | true => exact Dict.get?_of_isEmpty hempty _
    | false =>
      rw [← hall.unique hwrote hempty]
      exact Dict.get?_erase_self _ _
  · intro hnone
    rw [Dict.erase_of_get?_eq_none hnone] at hwrote
    exact hwrote
  · rw [get?_replacements hr]
    simp only [mem_replaced_iff]

end Valid

section Sample

/-- A table whose identity is declared as searched, and as changeable by default. -/
def samplePosts : TableSetup where
  label := "Posts"
  table := "posts"
  titleColumn := "title"
  columns := [
    { column := { id := "id", type := .integer, title := "ID", global := true } },
    { column := { id := "title", type := .string, title := "Title", global := true } }]

def sampleConfig : Config where
  path := "search.toml"
  allowWrite := true
  tables := .ofList [("posts", samplePosts)]

def samplePhrase : Phrase := { pattern := "1", replacement := some "2" }

/-- One row of it, with the identity 1. -/
def sampleStore (title : String) : Memory :=
  ({} : Memory).insert (samplePosts.source "posts").table
    ⟨1, Dict.empty.insert "title" (.text title)⟩

theorem mem_sources_sample : samplePosts.source "posts" ∈ sampleConfig.sources := by
  rw [show sampleConfig.sources = [samplePosts.source "posts"] from rfl]
  exact List.mem_singleton_self _

theorem replace_wrote_sample :
    let s := samplePosts.source "posts"
    let before : Session Memory := ⟨sampleStore "Part 1", []⟩
    let after : Session Memory := ⟨sampleStore "Part 2",
      [⟨"save", "posts", 1, .ofList [("title", .text "Part 2")]⟩]⟩
    let changes : Changes := .ofList [("id", .text "2"), ("title", .text "Part 2")]
    sampleConfig.error? = none ∧ s ∈ sampleConfig.sources ∧ before.store.Built ∧
      s.replace .allowed 1 samplePhrase before = (.ok changes, after) ∧
      Wrote s 1 (changes.erase "id") before after ∧ ¬Wrote s 1 changes before after := by
  intro s before after changes
  have hc : sampleConfig.error? = none := rfl
  have hm : before.store.Built := Memory.Built.empty.insert _ _
  have h : (samplePosts.source "posts").replace .allowed 1 samplePhrase ⟨sampleStore "Part 1", []⟩ =
      (.ok (.ofList [("id", .text "2"), ("title", .text "Part 2")]), ⟨sampleStore "Part 2",
        [⟨"save", "posts", 1, .ofList [("title", .text "Part 2")]⟩]⟩) := rfl
  obtain ⟨hwrote, hall, -⟩ := replace_wrote hc mem_sources_sample hm h
  refine ⟨hc, mem_sources_sample, hm, h, hwrote, fun hreport => ?_⟩
  have hnone : changes.get? "id" = none := hall.mp hreport
  cases hnone

/-- Where the phrase occurs in the identity alone, a change is reported and nothing is done. -/
theorem replace_reports_dropped :
    let s := samplePosts.source "posts"
    let before : Session Memory := ⟨sampleStore "Part", []⟩
    let changes : Changes := .ofList [("id", .text "2")]
    sampleConfig.error? = none ∧ s ∈ sampleConfig.sources ∧ before.store.Built ∧
      s.replace .allowed 1 samplePhrase before = (.ok changes, before) ∧
      ¬Wrote s 1 changes before before := by
  intro s before changes
  have hc : sampleConfig.error? = none := rfl
  have hm : before.store.Built := Memory.Built.empty.insert _ _
  have h : (samplePosts.source "posts").replace .allowed 1 samplePhrase ⟨sampleStore "Part", []⟩ =
      (.ok (.ofList [("id", .text "2")]), ⟨sampleStore "Part", []⟩) := rfl
  refine ⟨hc, mem_sources_sample, hm, h, fun hreport => ?_⟩
  have haudit := hreport.audit
  cases haudit

end Sample

end Source

end TableSearch
