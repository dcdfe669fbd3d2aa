import TableSearch.Proofs.KeyedTable
import TableSearch.Proofs.ReplaceReport
import TableSearch.Sql.Database

/-!
# Saving keeps rows in their place

A save drops the change of the column that identifies the row, by its exact name. The database
resolves names up to the case of letters, so another name may stand for the same column. Main
statement: a save changes no other row and no other cell, and the rows keep their numbers exactly
if no change that it takes brings the key to another integer under another name; a replacement
never does (`Source.save_kept`).
-/
namespace TableSearch

namespace Sql.Database

variable {d : Database} {table : TableRef} {t : Table} {k : Nat} {id : Int64} {row : Row}
  {changes : Changes}

theorem table?_put (d : Database) (name other : String) (t : Table) :
    (d.put name t).table? other =
      if folded other = folded name then some t else d.table? other := by
  unfold table? put
  split
  · rename_i h
    rw [h, Dict.get?_insert_self]
  · rename_i h
    rw [Dict.get?_insert_of_ne _ _ h]

/-- A row as callers see it has the cells of declared columns, under their exact names, and the
number that it is filed under. -/
theorem row_eq_ok (hk : t.Keyed k) {idColumn : String}
    (hname : t.resolve? idColumn = some (.column k)) {cells : List Cell}
    (hrow : t.rows.get? id = some cells) (h : Database.row t idColumn ⟨id, cells⟩ = .ok row) :
    row.id = id ∧ (row.cells.get? idColumn).isSome = true ∧
      ∀ name, (row.cells.get? name).isSome = true →
        ∃ (i : Nat) (c : ColumnDef), t.columns[i]? = some c ∧ c.name = name := by
  have hcell {name : String} {v : Value}
      (hget : (Dict.ofList ((t.columns.map (·.name)).zip (cells.map Cell.toValue))).get? name =
        some v) :
      ∃ (i : Nat) (c : ColumnDef) (cell : Cell), t.columns[i]? = some c ∧ c.name = name ∧
        cells[i]? = some cell ∧ cell.toValue = v := by
    obtain ⟨i, hi⟩ := List.mem_iff_getElem?.mp (Dict.mem_of_get?_ofList hget)
    obtain ⟨hnames, hvalues⟩ := List.getElem?_zip_eq_some.mp hi
    rw [List.getElem?_map] at hnames hvalues
    obtain ⟨c, hc, hcname⟩ := Option.map_eq_some_iff.mp hnames
    obtain ⟨cell, hcell, hv⟩ := Option.map_eq_some_iff.mp hvalues
    exact ⟨i, c, cell, hc, hcname, hcell, hv⟩
  unfold Database.row at h
  dsimp only at h
  split at h
  · rename_i n hid
    cases h
    obtain ⟨v, hget, hv⟩ := Option.bind_eq_some_iff.mp hid
    refine ⟨?_, Option.isSome_iff_exists.mpr ⟨v, hget⟩, ?_⟩
    · obtain ⟨i, c, cell, hc, hcname, hcell, rfl⟩ := hcell hget
      have hi : t.resolve? idColumn = some (.column i) :=
        hk.resolve?_eq hc (Text.eqIgnoringAsciiCase_iff.mpr (congrArg _ hcname))
      rw [hname] at hi
      cases hi
      have hkey := hk.filed hrow
      rw [List.getD_eq_getElem?_getD, hcell, Option.getD_some] at hkey
      subst hkey
      exact (Option.some.inj hv).symm
    · intro name hsome
      obtain ⟨v, hget⟩ := Option.isSome_iff_exists.mp hsome
      obtain ⟨i, c, -, hc, hcname, -⟩ := hcell hget
      exact ⟨i, c, hc, hcname⟩
  · cases h

theorem fetch_eq_some (ht : d.table? table.name = some t) (hk : t.Keyed k)
    (hname : t.resolve? table.idColumn = some (.column k))
    (h : d.fetch table id = .ok (some row)) :
    (∃ cells, t.rows.get? id = some cells) ∧ row.id = id ∧
      (row.cells.get? table.idColumn).isSome = true ∧
      ∀ name, (row.cells.get? name).isSome = true →
        ∃ (i : Nat) (c : ColumnDef), t.columns[i]? = some c ∧ c.name = name := by
  have hfind : t.records.find? (t.hasKey (t.resolve table.idColumn) (.integer id)) =
      (t.rows.get? id).map fun cells => ⟨id, cells⟩ := by
    rw [Table.resolve, hname, Option.getD_some, ← List.head?_filter, hk.filter_hasKey]
    cases t.rows.get? id <;> rfl
  unfold fetch at h
  rw [ht] at h
  dsimp only at h
  rw [hfind] at h
  cases hrow : t.rows.get? id with
  | none =>
    rw [hrow] at h
    cases h
  | some cells =>
    rw [hrow, Option.map_some] at h
    dsimp only at h
    cases hseen : Database.row t table.idColumn ⟨id, cells⟩ with
    | error e =>
      rw [hseen] at h
      cases h
    | ok seen =>
      rw [hseen] at h
      obtain rfl : seen = row := Option.some.inj (Except.ok.inj h)
      exact ⟨⟨cells, rfl⟩, row_eq_ok hk hname hrow hseen⟩

theorem update_apply (d : Database) (table : TableRef) (row : Row) :
    Store.update table row d =
      match d.update table row with
      | .error e => (.error e, d)
      | .ok (found, after) => (.ok found, after) := rfl

theorem update_eq (ht : d.table? table.name = some t)
    (hname : t.resolve? table.idColumn = some (.column k))
    (hid : changes.get? table.idColumn = none) (hsome : changes.isEmpty = false) :
    d.update table ⟨id, changes⟩ =
      match (t.assignments? changes.toList).bind fun assignments =>
        t.update? assignments (t.hasKey (.column k) (.integer id)) with
      | none => .error (.update table.name id)
      | some (count, t) => .ok (count != 0, d.put table.name t) := by
  have hchanges : (changes.filter fun c _ => c != table.idColumn) = changes := by
    refine Dict.filter_of_forall fun e he => ?_
    rw [bne_iff_ne]
    intro hcolumn
    rw [← hcolumn, Dict.get?_eq_some_iff.mpr he] at hid
    cases hid
  have hlist : changes.toList.isEmpty = false := hsome
  have hresolve : t.resolve table.idColumn = .column k := by
    rw [Table.resolve, hname, Option.getD_some]
  unfold update
  simp only [hchanges, hlist, Bool.false_eq_true, if_false, ht]
  rw [← hresolve]
  rfl

/-- Updating the row with an id fails, finds no row, or changes the table. -/
theorem update_cases (ht : d.table? table.name = some t) (hk : t.Keyed k)
    (hname : t.resolve? table.idColumn = some (.column k))
    (hid : changes.get? table.idColumn = none) (hsome : changes.isEmpty = false) :
    d.update table ⟨id, changes⟩ = .error (.update table.name id) ∨
      d.update table ⟨id, changes⟩ = .ok (false, d.put table.name t) ∨
      ∃ t', t.Changed id changes t' ∧
        d.update table ⟨id, changes⟩ = .ok (true, d.put table.name t') := by
  rw [update_eq ht hname hid hsome]
  cases hassigned : t.assignments? changes.toList with
  | none => exact .inl rfl
  | some assignments =>
    rw [Option.bind_some]
    rcases hk.update?_cases hassigned id with hnone | ⟨-, hmissing⟩ | ⟨t', ht', hchanged⟩
    · exact .inl (by rw [hnone])
    · exact .inr (.inl (by rw [hmissing]; rfl))
    · exact .inr (.inr ⟨t', ht', by rw [hchanged]; rfl⟩)

end Sql.Database

namespace Source

theorem save_of_update {σ : Type} [Store σ] {s : Source} {rowId : Int64} {changes : Changes}
    {before : Session σ} {row : Row} {read done : σ} (hsome : (s.accepted changes).isEmpty = false)
    (hfetch : Store.fetch s.table rowId before.store = (.ok (some row), read))
    (hupdate : Store.update s.table ⟨row.id, s.accepted changes⟩ read = (.ok true, done)) :
    s.save .allowed rowId changes before =
      (.ok (), ⟨done, before.audit ++ [s.saveEntry rowId changes]⟩) := by
  have houtcome : SaveOutcome s .allowed rowId changes before _ := save_outcome
  generalize s.save .allowed rowId changes before = ended at houtcome
  cases houtcome with
  | nothing hempty =>
    rw [hempty] at hsome
    cases hsome
  | missing _ hfetch' hmissing =>
    rw [hfetch] at hfetch'
    cases hfetch'
    exact absurd rfl (hmissing row)
  | audited _ _ hgate => cases hgate
  | written _ hfetch' _ hupdate' =>
    rw [hfetch] at hfetch'
    cases hfetch'
    rw [hupdate] at hupdate'
    cases hupdate'
    rfl
  | unwritten _ hfetch' _ hupdate' hanswer =>
    rw [hfetch] at hfetch'
    cases hfetch'
    rw [hupdate] at hupdate'
    cases hupdate'
    exact absurd rfl hanswer

open Sql

variable {s : Source} {before : Session Database} {t : Table} {k : Nat} {rowId : Int64}
  {changes : Changes}

/-- What a write with an open gate keeps of a database with a table: the other tables, and in this
one all but cells of one row that changes resolve to. -/
structure KeptIn (s : Source) (rowId : Int64) (changes : Changes) (t : Table) (k : Nat)
    (before after : Database) (t' : Table) : Prop where
  table : after.table? s.schema.table = some t'
  others : ∀ name, Database.folded name ≠ Database.folded s.schema.table →
    after.table? name = before.table? name
  keyed : t'.Keyed k
  kept : t.Kept rowId changes t'

theorem KeptIn.refl {d : Database} (ht : d.table? s.schema.table = some t) (hk : t.Keyed k) :
    KeptIn s rowId changes t k d d t :=
  ⟨ht, fun _ _ => rfl, hk, .refl t rowId changes⟩

theorem KeptIn.put {d : Database} {t' : Table} (hkeyed : t'.Keyed k)
    (hkept : t.Kept rowId changes t') :
    KeptIn s rowId changes t k d (d.put s.schema.table t') t' where
  table := by rw [Database.table?_put, if_pos rfl]
  others name hne := by rw [Database.table?_put, if_neg hne]
  keyed := hkeyed
  kept := hkept

/-- A save with an open gate changes cells of the row that it names and nothing else. The rows keep
their numbers exactly if it fails, or there is no such row, or the changes leave it its number. -/
theorem save_keptIn (ht : before.store.table? s.schema.table = some t) (hk : t.Keyed k)
    (hname : t.resolve? s.idColumn = some (.column k)) :
    ∃ t', KeptIn s rowId (s.accepted changes) t k before.store
        (s.save .allowed rowId changes before).2.store t' ∧
      ((∀ n, t'.rows.contains n = t.rows.contains n) ↔
        (s.save .allowed rowId changes before).1 = .ok () → t.rows.contains rowId = true →
          t.destination (s.accepted changes) rowId = rowId) := by
  have houtcome : SaveOutcome s .allowed rowId changes before _ := save_outcome
  generalize s.save .allowed rowId changes before = ended at houtcome
  have hfetched {answer : Except StoreError (Option Row)} {read : Database}
      (hfetch : Store.fetch s.table rowId before.store = (answer, read)) :
      before.store.fetch s.table rowId = answer ∧ read = before.store :=
    ⟨congrArg Prod.fst hfetch, (congrArg Prod.snd hfetch).symm⟩
  have hfound {row : Row} (hfetch : before.store.fetch s.table rowId = .ok (some row)) :=
    @Database.fetch_eq_some before.store s.table t k rowId row ht hk hname hfetch
  have hcases (hsome : (s.accepted changes).isEmpty = false) :=
    @Database.update_cases before.store s.table t k rowId (s.accepted changes) ht hk hname
      accepted_idColumn hsome
  cases houtcome with
  | nothing hempty =>
    refine ⟨t, .refl ht hk, fun _ _ _ => ?_, fun _ _ => rfl⟩
    refine hk.destination_eq (fun name hcontains => ?_) rowId
    rw [Dict.contains, Dict.get?_of_isEmpty hempty] at hcontains
    cases hcontains
  | missing hsome hfetch hmissing =>
    obtain ⟨-, rfl⟩ := hfetched hfetch
    exact ⟨t, .refl ht hk, fun _ hok => (by cases hok), fun _ _ => rfl⟩
  | audited hsome hfetch hgate => cases hgate
  | written hsome hfetch hgate hupdate =>
    obtain ⟨hseen, rfl⟩ := hfetched hfetch
    obtain ⟨⟨cells, hrow⟩, hid, -, -⟩ := hfound hseen
    rw [hid, Database.update_apply] at hupdate
    rcases hcases hsome with herror | hmissing | ⟨t', ht', hchanged⟩
    · rw [herror] at hupdate
      cases hupdate
    · rw [hmissing] at hupdate
      cases hupdate
    · rw [hchanged] at hupdate
      cases hupdate
      refine ⟨t', .put (ht'.keyed hk) (ht'.kept hk), (ht'.contains_iff hk).trans ?_⟩
      have hpresent : t.rows.contains rowId = true := Option.isSome_iff_exists.mpr ⟨cells, hrow⟩
      exact ⟨fun h _ _ => h, fun h => h rfl hpresent⟩
  | unwritten hsome hfetch hgate hupdate hanswer =>
    obtain ⟨hseen, rfl⟩ := hfetched hfetch
    obtain ⟨-, hid, -, -⟩ := hfound hseen
    rw [hid, Database.update_apply] at hupdate
    rcases hcases hsome with herror | hmissing | ⟨t', ht', hchanged⟩
    · rw [herror] at hupdate
      cases hupdate
      exact ⟨t, .refl ht hk, fun _ hok => (by cases hok), fun _ _ => rfl⟩
    · rw [hmissing] at hupdate
      cases hupdate
      exact ⟨t, .put hk (.refl t _ _), fun _ hok => (by cases hok), fun _ _ => rfl⟩
    · rw [hchanged] at hupdate
      cases hupdate
      exact absurd rfl hanswer

theorem takes_of_accepted {name : String} (h : (s.accepted changes).contains name = true) :
    name ≠ s.idColumn ∧ (changes.get? name).isSome = true ∧
      ∃ column ∈ s.schema.columns, column.id = name ∧ column.modify = true := by
  obtain ⟨v, hv⟩ := Option.isSome_iff_exists.mp h
  rw [accepted, Dict.get?_filter, Option.filter_eq_some_iff, takes, Bool.and_eq_true,
    bne_iff_ne] at hv
  obtain ⟨hget, hne, hmodify⟩ := hv
  refine ⟨hne, Option.isSome_iff_exists.mpr ⟨v, hget⟩, ?_⟩
  cases hcolumn : s.schema.column? name with
  | none =>
    rw [hcolumn] at hmodify
    cases hmodify
  | some column =>
    rw [hcolumn] at hmodify
    exact ⟨column, List.mem_of_find?_eq_some hcolumn, Schema.id_of_column? hcolumn, hmodify⟩

theorem isSome_of_replacements {f : Finder} {row : Row} {columns : List Column} {name : String}
    (h : replacements f row columns = .ok changes) (hname : (changes.get? name).isSome = true) :
    (row.cells.get? name).isSome = true ∧ name ∈ columns.map (·.id) := by
  rw [get?_replacements h] at hname
  split at hname
  · rename_i hmem
    refine ⟨?_, hmem⟩
    unfold Row.get at hname
    cases hcell : row.cells.get? name with
    | none =>
      rw [hcell] at hname
      cases hname
    | some v => rfl
  · cases hname

/-- The changes of a replacement are under the exact names of columns, so only the one that
identifies the row is that of the key. -/
theorem target?_of_replacements (hk : t.Keyed k) (hname : t.resolve? s.idColumn = some (.column k))
    {row : Row} {f : Finder} {columns : List Column}
    (hid : (row.cells.get? s.idColumn).isSome = true)
    (hdeclared : ∀ name, (row.cells.get? name).isSome = true →
      ∃ (i : Nat) (c : ColumnDef), t.columns[i]? = some c ∧ c.name = name)
    (h : replacements f row columns = .ok changes) {name : String}
    (hcontains : (s.accepted changes).contains name = true) : t.target? name ≠ some k := by
  have hexact {name : String} (hcell : (row.cells.get? name).isSome = true) :
      ∃ (i : Nat) (c : ColumnDef), t.columns[i]? = some c ∧ c.name = name ∧
        t.resolve? name = some (.column i) := by
    obtain ⟨i, c, hc, hcname⟩ := hdeclared name hcell
    exact ⟨i, c, hc, hcname, hk.resolve?_eq hc (Text.eqIgnoringAsciiCase_iff.mpr (hcname ▸ rfl))⟩
  obtain ⟨hne, hget, -⟩ := takes_of_accepted hcontains
  obtain ⟨i, c, hc, hcname, hi⟩ := hexact (isSome_of_replacements h hget).1
  obtain ⟨j, c', hc', hcname', hj⟩ := hexact hid
  rw [hname] at hj
  cases hj
  intro htarget
  rw [Table.target?_of_resolve? hi] at htarget
  cases htarget
  rw [hc] at hc'
  cases hc'
  exact hne (hcname.symm.trans hcname')

theorem edits_inDatabase (s : Source) (rowId : Int64) (phrase : Phrase) (d : Database) :
    (s.edits rowId phrase d).2 = d ∧
      ∀ changes, (s.edits rowId phrase d).1 = .ok changes →
        ∃ f row, d.fetch s.table rowId = .ok (some row) ∧
          replacements f row s.replaceable = .ok changes := by
  have houtcome : EditsOutcome s rowId phrase d _ := edits_outcome d
  generalize s.edits rowId phrase d = found at houtcome
  cases houtcome with
  | malformed hphrase => exact ⟨rfl, nofun⟩
  | bare hphrase hf => exact ⟨rfl, nofun⟩
  | missing hphrase hf hfetch hmissing => exact ⟨(congrArg Prod.snd hfetch).symm, nofun⟩
  | @found f row read changes hphrase hf hfetch hchanges =>
    refine ⟨(congrArg Prod.snd hfetch).symm, fun _ hfound => ?_⟩
    cases hfound
    exact ⟨f, row, congrArg Prod.fst hfetch, hchanges⟩

/-- A replacement with an open gate changes cells of the row that it names, in columns that are
searched and may be changed, and nothing else. All rows keep their numbers. -/
theorem replace_keptIn (ht : before.store.table? s.schema.table = some t) (hk : t.Keyed k)
    (hname : t.resolve? s.idColumn = some (.column k)) (phrase : Phrase) :
    ∃ changes t', KeptIn s rowId (s.accepted changes) t k before.store
        (s.replace .allowed rowId phrase before).2.store t' ∧
      (∀ name, (s.accepted changes).contains name = true → name ∈ s.replaceable.map (·.id)) ∧
      ∀ n, t'.rows.contains n = t.rows.contains n := by
  obtain ⟨hread, hfound⟩ := s.edits_inDatabase rowId phrase before.store
  rcases hedits : s.edits rowId phrase before.store with ⟨e | changes, read⟩
  all_goals
    rw [hedits] at hread hfound
    subst hread
  · rw [replace_of_edits_error hedits]
    refine ⟨.empty, t, .refl ht hk, fun name hcontains => ?_, fun _ => rfl⟩
    cases hcontains
  · rw [replace_of_edits_ok hedits]
    obtain ⟨f, row, hseen, hchanges⟩ := hfound changes rfl
    obtain ⟨-, -, hid, hdeclared⟩ :=
      @Database.fetch_eq_some before.store s.table t k rowId row ht hk hname hseen
    obtain ⟨t', hkept, hnumbers⟩ := @save_keptIn s before t k rowId changes ht hk hname
    refine ⟨changes, t', hkept, ?_, hnumbers.mpr fun _ _ => ?_⟩
    · intro name hcontains
      exact (isSome_of_replacements hchanges (takes_of_accepted hcontains).2.1).2
    · exact hk.destination_eq
        (fun name => target?_of_replacements hk hname hid hdeclared hchanges) rowId

/-- Writing with an open gate to a table with an integer primary key that `idColumn` names. A save
and a replacement keep all other rows, and all cells but those of the named row that a change
resolves to. A save moves the row exactly if it succeeds and the last change that resolves to the
key takes it to another integer, so only if the schema has a column for the key that may be changed
and whose identifier is not exactly `idColumn`. A replacement never does. -/
theorem save_kept (ht : before.store.table? s.schema.table = some t) (hk : t.Keyed k)
    (hname : t.resolve? s.idColumn = some (.column k)) (rowId : Int64) :
    (∀ changes, ∃ t', KeptIn s rowId (s.accepted changes) t k before.store
        (s.save .allowed rowId changes before).2.store t' ∧
      ((∀ n, t'.rows.contains n = t.rows.contains n) ↔
        ((s.save .allowed rowId changes before).1 = .ok () → t.rows.contains rowId = true →
          t.destination (s.accepted changes) rowId = rowId)) ∧
      ((∀ column ∈ s.schema.columns, column.modify = true → column.id ≠ s.idColumn →
          t.target? column.id ≠ some k) →
        ∀ n, t'.rows.contains n = t.rows.contains n)) ∧
    ∀ phrase, ∃ changes t', KeptIn s rowId (s.accepted changes) t k before.store
        (s.replace .allowed rowId phrase before).2.store t' ∧
      (∀ name, (s.accepted changes).contains name = true → name ∈ s.replaceable.map (·.id)) ∧
      ∀ n, t'.rows.contains n = t.rows.contains n := by
  refine ⟨fun changes => ?_, replace_keptIn ht hk hname⟩
  obtain ⟨t', hkept, hnumbers⟩ := @save_keptIn s before t k rowId changes ht hk hname
  refine ⟨t', hkept, hnumbers, fun hschema => hnumbers.mpr fun _ _ => ?_⟩
  refine hk.destination_eq (fun name hcontains => ?_) rowId
  obtain ⟨hne, -, column, hcolumn, rfl, hmodify⟩ := takes_of_accepted hcontains
  exact hschema column hcolumn hmodify hne

section Sample

/-- A setup that declares the key in capitals, which the exact name in `idColumn` is not. -/
def capitalPosts : TableSetup where
  label := "Posts"
  table := "posts"
  titleColumn := "title"
  columns := [
    { column := { id := "ID", type := .integer, title := "ID" } },
    { column := { id := "title", type := .string, title := "Title" } }]

def capitalConfig : Config where
  path := "search.toml"
  allowWrite := true
  tables := .ofList [("posts", capitalPosts)]

/-- The table of it, with one row. -/
def keyedPosts : Table where
  columns := [{ name := "id", affinity := .integer, isKey := true },
    { name := "title", affinity := .text }]
  rows := Dict.empty.insert 1 [.integer 1, .text [97]]

theorem keyedPosts_keyed : keyedPosts.Keyed 0 := by
  have hempty : Table.Keyed { columns := keyedPosts.columns } 0 :=
    .of_columns (by decide) rfl rfl
  have hinsert : Table.insert? { columns := keyedPosts.columns }
      [("id", .integer 1), ("title", .text [97])] = some keyedPosts := rfl
  exact hempty.insert? hinsert

def movedPosts : Table :=
  { keyedPosts with rows := Dict.empty.insert 5 [.integer 5, .text [97]] }

/-- A save of the key under its name in capitals succeeds and moves the row. -/
theorem save_capitals :
    (capitalPosts.source "posts").save .allowed 1 (.ofList [("ID", .integer 5)])
        ⟨({} : Database).put "posts" keyedPosts, []⟩ =
      (.ok (), ⟨({} : Database).put "posts" movedPosts,
        [⟨"save", "posts", 1, .ofList [("ID", .integer 5)]⟩]⟩) := by
  let s := capitalPosts.source "posts"
  let row : Row := ⟨1, .ofList [("id", .integer 1), ("title", .text "a")]⟩
  have haccepted : s.accepted (.ofList [("ID", .integer 5)]) = .ofList [("ID", .integer 5)] := by
    decide
  have hfetch : (({} : Database).put "posts" keyedPosts).fetch s.table 1 = .ok (some row) := by
    decide +kernel
  have hupdate : (({} : Database).put "posts" keyedPosts).update s.table
      ⟨1, .ofList [("ID", .integer 5)]⟩ = .ok (true, ({} : Database).put "posts" movedPosts) := by
    decide +kernel
  have hsave := @save_of_update _ _ s 1 (.ofList [("ID", .integer 5)])
    ⟨({} : Database).put "posts" keyedPosts, []⟩ row _ (({} : Database).put "posts" movedPosts)
    (by rw [haccepted]; rfl) (congrArg (·, ({} : Database).put "posts" keyedPosts) hfetch)
    (by rw [haccepted, Database.update_apply, hupdate])
  rw [saveEntry, haccepted] at hsave
  exact hsave

/-- With a valid configuration a save that succeeds moves a row. -/
theorem save_moves_row :
    let s := capitalPosts.source "posts"
    let before : Session Database := ⟨({} : Database).put "posts" keyedPosts, []⟩
    let ended := s.save .allowed 1 (.ofList [("ID", .integer 5)]) before
    capitalConfig.error? = none ∧ s ∈ capitalConfig.sources ∧ keyedPosts.Keyed 0 ∧
      keyedPosts.resolve? s.idColumn = some (.column 0) ∧ ended.1 = .ok () ∧
      ended.2.store.table? s.schema.table = some movedPosts ∧
      ¬∀ n, movedPosts.rows.contains n = keyedPosts.rows.contains n := by
  intro s before ended
  have hc : capitalConfig.error? = none := rfl
  have hname : keyedPosts.resolve? s.idColumn = some (.column 0) := by decide
  have hended : ended = (.ok (), ⟨({} : Database).put "posts" movedPosts,
      [⟨"save", "posts", 1, .ofList [("ID", .integer 5)]⟩]⟩) := save_capitals
  refine ⟨hc, List.mem_singleton_self _, keyedPosts_keyed, hname, ?_, ?_, fun hall => ?_⟩
  · rw [hended]
  · rw [hended]
    exact (Database.table?_put _ _ _ _).trans (if_pos rfl)
  · exact absurd (hall 1) (by decide)

/-- The same save, and one that the schema without the capitals would take as well. -/
theorem save_kept_sample :
    let s := capitalPosts.source "posts"
    let before : Session Database := ⟨({} : Database).put "posts" keyedPosts, []⟩
    let capitals : Changes := .ofList [("ID", .integer 5)]
    let title : Changes := .ofList [("title", .text "b")]
    before.store.table? s.schema.table = some keyedPosts ∧ keyedPosts.Keyed 0 ∧
      keyedPosts.resolve? s.idColumn = some (.column 0) ∧
      (∃ t', KeptIn s 1 (s.accepted capitals) keyedPosts 0 before.store
          (s.save .allowed 1 capitals before).2.store t' ∧
        ¬∀ n, t'.rows.contains n = keyedPosts.rows.contains n) ∧
      ∃ t', KeptIn s 1 (s.accepted title) keyedPosts 0 before.store
          (s.save .allowed 1 title before).2.store t' ∧
        ∀ n, t'.rows.contains n = keyedPosts.rows.contains n := by
  intro s before capitals title
  have ht : before.store.table? s.schema.table = some keyedPosts :=
    (Database.table?_put _ _ _ _).trans (if_pos rfl)
  have hname : keyedPosts.resolve? s.idColumn = some (.column 0) := by decide
  have hsaved : (s.save .allowed 1 capitals before).1 = .ok () := by
    rw [show s.save .allowed 1 capitals before = _ from save_capitals]
  have hsaves := (save_kept ht keyedPosts_keyed hname 1).1
  obtain ⟨moved, hmoved, hmoves, -⟩ := hsaves capitals
  obtain ⟨kept, hkept, hstays, -⟩ := hsaves title
  refine ⟨ht, keyedPosts_keyed, hname, ⟨moved, hmoved, fun hall => ?_⟩, kept, hkept, ?_⟩
  · exact absurd (hmoves.mp hall hsaved (by decide)) (by decide)
  · exact hstays.mpr fun _ _ => by decide

end Sample

end Source

end TableSearch
