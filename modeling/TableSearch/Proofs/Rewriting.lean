import TableSearch.Proofs.ReplaceReport

/-!
# Replacing in one row after the other

With an open gate a replacement in a row of a store in memory rewrites that row and no other. A row
that is rewritten keeps its id and its place in the table. So replacing in several rows, each once,
rewrites each as it was at first.
-/
namespace TableSearch

namespace Source

variable {s : Source} {f : Finder} {phrase : Phrase}

def replaced (s : Source) (f : Finder) (row : Row) : Row :=
  match replacements f row s.replaceable with
  | .ok changes => Memory.write row s.idColumn (s.accepted changes)
  | .error _ => row

theorem replaced_eq {row : Row} {changes : Changes}
    (h : replacements f row s.replaceable = .ok changes) :
    s.replaced f row = Memory.write row s.idColumn (s.accepted changes) := by
  unfold replaced
  rw [h]

theorem id_replaced (row : Row) : (s.replaced f row).id = row.id := by
  unfold replaced
  split <;> rfl

/-- Of a row that is rewritten, the searched columns that may be changed and do not identify the row
have what the phrase makes of them. -/
theorem get?_replaced (hnodup : s.schema.columnIds.Nodup) (hf : f.replacement.isSome = true)
    (row : Row) (column : String) :
    (s.replaced f row).cells.get? column =
      if column ≠ s.idColumn ∧
          ∃ c ∈ s.schema.columns, c.id = column ∧ c.global = true ∧ c.modify = true
      then (f.edit? (row.get column)).or (row.cells.get? column)
      else row.cells.get? column := by
  obtain ⟨changes, hchanges⟩ := exists_replacements hf row s.replaceable
  rw [replaced_eq hchanges, Memory.get?_write]
  by_cases hid : column = s.idColumn
  · rw [if_pos hid, if_neg fun hboth => hboth.1 hid]
  · rw [if_neg hid, accepted_replacements hnodup hchanges, Dict.get?_erase_of_ne _ hid,
      get?_replacements hchanges]
    have hiff := mem_replaced_iff s.schema column
    by_cases hmem : column ∈ s.replaceable.map (·.id)
    · rw [if_pos hmem, if_pos ⟨hid, hiff.mp hmem⟩]
    · rw [if_neg hmem, if_neg fun hboth => hmem (hiff.mpr hboth.2), Option.none_or]

/-- A row, rewritten if its id is among those given. -/
def rewritten (s : Source) (f : Finder) (ids : List Int64) (row : Row) : Row :=
  if row.id ∈ ids then s.replaced f row else row

theorem id_rewritten (ids : List Int64) (row : Row) : (s.rewritten f ids row).id = row.id := by
  unfold rewritten
  split
  · exact id_replaced row
  · rfl

theorem rewritten_of_notMem {ids : List Int64} {row : Row} (h : row.id ∉ ids) :
    s.rewritten f ids row = row := if_neg h

theorem rewritten_append {ids later : List Int64} (h : ∀ id ∈ ids, id ∉ later) :
    s.rewritten f later ∘ s.rewritten f ids = s.rewritten f (ids ++ later) := by
  funext row
  rw [Function.comp_apply]
  by_cases hids : row.id ∈ ids
  · have hlater : (s.rewritten f ids row).id ∉ later := by
      rw [id_rewritten]
      exact h _ hids
    rw [rewritten_of_notMem hlater, rewritten, rewritten, if_pos hids,
      if_pos (List.mem_append_left _ hids)]
  · rw [rewritten_of_notMem hids]
    unfold rewritten
    simp only [List.mem_append, hids, false_or]

end Source

/-- The rows of the given ids were rewritten in the table of a source, all else is as before. -/
structure Rewrote (s : Source) (f : Finder) (ids : List Int64) (before after : Memory) : Prop where
  rows : ∀ table, after.rows table =
    if table = s.schema.table then (before.rows table).mapValues (s.rewritten f ids)
    else before.rows table

namespace Rewrote

variable {s : Source} {f : Finder} {ids later : List Int64} {m m' m'' : Memory}

theorem nil : Rewrote s f [] m m := by
  refine ⟨fun table => ?_⟩
  split
  · rw [Dict.mapValues_of_forall]
    intro e _
    exact Source.rewritten_of_notMem List.not_mem_nil
  · rfl

theorem append (h : Rewrote s f ids m m') (h' : Rewrote s f later m' m'')
    (hdisjoint : ∀ id ∈ ids, id ∉ later) : Rewrote s f (ids ++ later) m m'' := by
  refine ⟨fun table => ?_⟩
  rw [h'.rows, h.rows]
  split
  · rw [Dict.mapValues_mapValues, Source.rewritten_append hdisjoint]
  · rfl

theorem values (h : Rewrote s f ids m m') :
    (m'.rows s.schema.table).values = (m.rows s.schema.table).values.map (s.rewritten f ids) := by
  rw [h.rows, if_pos rfl, Dict.values_mapValues]

theorem count (h : Rewrote s f ids m m') : m'.count s.schema.table = m.count s.schema.table := by
  unfold Memory.count
  rw [h.rows, if_pos rfl, Dict.size_mapValues]

theorem get? (h : Rewrote s f ids m m') (id : Int64) :
    (m'.rows s.schema.table).get? id =
      ((m.rows s.schema.table).get? id).map (s.rewritten f ids) := by
  rw [h.rows, if_pos rfl, Dict.get?_mapValues]

theorem filed (h : Rewrote s f ids m m') (hm : m.Filed) : m'.Filed := by
  intro table e he
  rw [h.rows] at he
  split at he
  · obtain ⟨e, hmem, rfl⟩ := List.mem_map.mp he
    exact (Source.id_rewritten ids e.2).trans (hm table e hmem)
  · exact hm table e he

theorem of_insert {rowId : Int64} {row : Row} (hm : m.Filed)
    (hrow : m.fetch s.table rowId = some row)
    (h : ∀ table, m'.rows table =
      if table = s.schema.table then (m.rows table).insert rowId (s.replaced f row)
      else m.rows table) :
    Rewrote s f [rowId] m m' := by
  have hget : (m.rows s.schema.table).get? rowId = some row := hrow
  have hid : row.id = rowId := hm.id_eq_of_fetch hrow
  refine ⟨fun table => ?_⟩
  rw [h]
  split
  · rename_i htable
    subst htable
    refine Dict.insert_eq_mapValues (Option.isSome_iff_exists.mpr ⟨row, hget⟩) ?_ ?_
    · intro found hfound
      rw [hget] at hfound
      rw [← Option.some.inj hfound, Source.rewritten, if_pos (List.mem_singleton.mpr hid)]
    · intro e he hne
      apply Source.rewritten_of_notMem
      rw [List.mem_singleton, hm s.schema.table e he]
      exact hne
  · rfl

end Rewrote

namespace Source

variable {s : Source} {f : Finder} {phrase : Phrase} {before : Session Memory}

theorem edits_found {rowId : Int64} {m : Memory} {row : Row} {changes : Changes}
    (hphrase : phrase.compile = .ok f) (hf : f.replacement.isSome = true)
    (hrow : m.fetch s.table rowId = some row)
    (hchanges : replacements f row s.replaceable = .ok changes) :
    s.edits rowId phrase m = (.ok changes, m) := by
  unfold edits
  rw [hphrase]
  dsimp only
  rw [if_neg (by simp [← Option.not_isSome, hf]), Memory.fetch_apply, hrow]
  dsimp only
  rw [hchanges]
  rfl

theorem write_of_isEmpty {row : Row} {changes : Changes} (h : changes.isEmpty = true) :
    Memory.write row s.idColumn changes = row := by
  unfold Memory.write
  rw [Dict.toList_filter, Dict.isEmpty_iff.mp h]
  rfl

theorem replace_rewrote (hm : before.store.Filed) (hphrase : phrase.compile = .ok f)
    (hf : f.replacement.isSome = true) {rowId : Int64} {row : Row}
    (hrow : before.store.fetch s.table rowId = some row) :
    ∃ changes after, s.replace .allowed rowId phrase before = (.ok changes, after) ∧
      Rewrote s f [rowId] before.store after.store := by
  obtain ⟨changes, hchanges⟩ := exists_replacements hf row s.replaceable
  have hreplace : s.replace .allowed rowId phrase before = _ :=
    replace_of_edits_ok (edits_found hphrase hf hrow hchanges)
  rw [save_inMemory hm, hrow] at hreplace
  cases hempty : (s.accepted changes).isEmpty with
  | true =>
    rw [if_pos hempty] at hreplace
    refine ⟨changes, before, hreplace, .of_insert hm hrow fun table => ?_⟩
    rw [replaced_eq hchanges, write_of_isEmpty hempty]
    split
    · rename_i htable
      exact (Dict.insert_of_get?_eq_some (htable ▸ hrow)).symm
    · rfl
  | false =>
    rw [if_neg (by simp [hempty])] at hreplace
    refine ⟨changes, _, hreplace, .of_insert hm hrow fun table => ?_⟩
    rw [replaced_eq hchanges]
    exact Memory.rows_update ⟨rowId, s.accepted changes⟩ hrow table

/-- Replace in rows, one after the other. -/
def replaceEach (s : Source) (phrase : Phrase) :
    List Int64 → Access (Session Memory) SourceError Unit
  | [] => return ()
  | id :: ids => do
    let _ ← s.replace .allowed id phrase
    replaceEach s phrase ids

/-- Replacing in distinct rows that are there succeeds and rewrites them all. -/
theorem replaceEach_rewrote (hm : before.store.Filed) (hphrase : phrase.compile = .ok f)
    (hf : f.replacement.isSome = true) {ids : List Int64} (hnodup : ids.Nodup)
    (hrows : ∀ id ∈ ids, (before.store.fetch s.table id).isSome = true) :
    ∃ after, s.replaceEach phrase ids before = (.ok (), after) ∧
      Rewrote s f ids before.store after.store := by
  induction ids generalizing before with
  | nil => exact ⟨before, rfl, .nil⟩
  | cons id ids ih =>
    obtain ⟨hfresh, hnodup⟩ := List.nodup_cons.mp hnodup
    obtain ⟨row, hrow⟩ := Option.isSome_iff_exists.mp (hrows id List.mem_cons_self)
    obtain ⟨changes, first, hreplace, hfirst⟩ := replace_rewrote hm hphrase hf hrow
    have hrest : ∀ later ∈ ids, (first.store.fetch s.table later).isSome = true := by
      intro later hlater
      have hget : first.store.fetch s.table later = _ := hfirst.get? later
      rw [hget, Option.isSome_map]
      exact hrows later (List.mem_cons_of_mem _ hlater)
    obtain ⟨after, hafter, hlater⟩ := ih (hfirst.filed hm) hnodup hrest
    refine ⟨after, ?_, hfirst.append hlater ?_⟩
    · rw [replaceEach, Access.bind_ok hreplace, hafter]
    · intro other hother
      rw [List.mem_singleton.mp hother]
      exact hfresh

end Source

end TableSearch
