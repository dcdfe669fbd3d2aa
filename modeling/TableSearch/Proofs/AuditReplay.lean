import TableSearch.Proofs.Run

/-!
# The audit trail tells what became of the tables

Whoever has the tables of some moment and the audit entries since then can compute the tables of
now: an entry with changes overlays the cells of its row, an entry without changes removes its row.
This holds for runs of changes over a store in memory with an open gate, however many of the changes
fail. A change that does nothing leaves no entry, or that of a row which was not there to remove.
-/
namespace TableSearch

/-- The rows of a table once an audit entry is applied to them. -/
def AuditEntry.redo (entry : AuditEntry) (rows : Rows) : Rows :=
  if entry.changes.isEmpty then rows.erase entry.rowId
  else
    match rows.get? entry.rowId with
    | none => rows
    | some row =>
      rows.insert entry.rowId { row with cells := row.cells.insertAll entry.changes.toList }

namespace Engine

def redo (e : Engine) (tables : String → Rows) (entry : AuditEntry) : String → Rows :=
  match e.registry.get? entry.source with
  | none => tables
  | some s => fun table =>
    if table = s.schema.table then entry.redo (tables table) else tables table

/-- The session after calls that change rows, one after the other. -/
def mutateAll (e : Engine) (ms : List Mutation) (before : Session Memory) : Session Memory :=
  ms.foldl (fun b m => (e.mutate m b).2) before

end Engine

namespace Source

variable {s : Source} {rowId : Int64} {changes : Changes}

theorem write_accepted (row : Row) :
    Memory.write row s.idColumn (s.accepted changes) =
      { row with cells := row.cells.insertAll (s.accepted changes).toList } := by
  have hall : (s.accepted changes).filter (fun c _ => c != s.idColumn) = s.accepted changes := by
    apply Dict.filter_of_forall
    intro e he
    obtain ⟨-, htakes⟩ := List.mem_filter.mp he
    unfold takes at htakes
    exact (Bool.and_eq_true_iff.mp htakes).1
  unfold Memory.write
  rw [hall]

theorem redo_saveEntry (hsome : (s.accepted changes).isEmpty = false) {rows : Rows} {row : Row}
    (hrow : rows.get? rowId = some row) :
    (s.saveEntry rowId changes).redo rows =
      rows.insert rowId (Memory.write row s.idColumn (s.accepted changes)) := by
  have hnot : ¬(s.saveEntry rowId changes).changes.isEmpty = true := by
    simpa [saveEntry] using hsome
  have hget : rows.get? (s.saveEntry rowId changes).rowId = some row := hrow
  rw [write_accepted, AuditEntry.redo, if_neg hnot, hget]
  rfl

end Source

namespace Engine

variable {e : Engine} {s : Source} {rowId : Int64}

/-- The audit entries between two sessions tell what became of the tables between them. -/
structure Told (e : Engine) (before after : Session Memory) : Prop where
  filed : after.store.Filed
  redone : ∃ trail, after.audit = before.audit ++ trail ∧
    after.store.rows = trail.foldl e.redo before.store.rows

namespace Told

variable {before after : Session Memory}

theorem refl (hm : before.store.Filed) : Told e before before :=
  ⟨hm, [], (List.append_nil _).symm, rfl⟩

theorem trans {between : Session Memory} (h : Told e before between) (h' : Told e between after) :
    Told e before after := by
  obtain ⟨-, trail, haudit, hrows⟩ := h
  obtain ⟨hfiled, trail', haudit', hrows'⟩ := h'
  refine ⟨hfiled, trail ++ trail', ?_, ?_⟩
  · rw [haudit', haudit, List.append_assoc]
  · rw [hrows', hrows, List.foldl_append]

theorem of_entry {entry : AuditEntry} {store : Memory}
    (hs : e.registry.get? entry.source = some s) (hfiled : store.Filed)
    (hrows : ∀ table, store.rows table =
      if table = s.schema.table then entry.redo (before.store.rows table)
      else before.store.rows table) :
    Told e before ⟨store, before.audit ++ [entry]⟩ := by
  refine ⟨hfiled, [entry], rfl, ?_⟩
  funext table
  rw [List.foldl_cons, List.foldl_nil, redo, hs]
  exact hrows table

theorem save (hs : e.registry.get? s.name = some s) (hm : before.store.Filed) (changes : Changes) :
    Told e before (s.save .allowed rowId changes before).2 := by
  rw [Source.save_inMemory hm]
  split
  · exact refl hm
  · rename_i hsome
    cases hrow : before.store.fetch s.table rowId with
    | none => exact refl hm
    | some row =>
      refine of_entry hs ?_ fun table => ?_
      · exact hm.update s.table ⟨rowId, s.accepted changes⟩
      · rw [if_neg (nofun : ¬Gate.allowed = Gate.denied),
          Memory.rows_update ⟨rowId, s.accepted changes⟩ hrow]
        by_cases htable : table = s.schema.table
        · have hget : (before.store.rows table).get? rowId = some row := htable ▸ hrow
          rw [if_pos htable, Source.redo_saveEntry (by simpa using hsome) hget]
          exact if_pos htable
        · rw [if_neg htable]
          exact if_neg htable

theorem delete (hs : e.registry.get? s.name = some s) (hm : before.store.Filed) :
    Told e before (s.delete .allowed rowId before).2 := by
  rw [Source.delete_inMemory]
  refine of_entry hs (hm.delete _ _) fun table => ?_
  exact Memory.rows_delete _ _ _ _

theorem replace (hs : e.registry.get? s.name = some s) (hm : before.store.Filed) (phrase : Phrase) :
    Told e before (s.replace .allowed rowId phrase before).2 := by
  rw [Source.replace_inMemory]
  split
  · exact refl hm
  · exact save hs hm _

theorem perform (hs : e.registry.get? s.name = some s) (hm : before.store.Filed) (edit : Edit) :
    Told e before (s.perform .allowed rowId edit before).2 := by
  cases edit with
  | save changes =>
    rw [Source.perform, Access.map_apply]
    exact save hs hm changes
  | delete =>
    rw [Source.perform, Access.map_apply]
    exact delete hs hm
  | replace phrase =>
    rw [Source.perform, Access.map_apply]
    exact replace hs hm phrase

theorem mutate (hopen : e.gate = .allowed) (hm : before.store.Filed) {m : Mutation}
    (hdry : m.dryRun = false) : Told e before (e.mutate m before).2 := by
  cases hs : e.registry.get? m.source with
  | none =>
    rw [mutate_of_unknown hs]
    exact refl hm
  | some s =>
    have hgate : e.gateFor m.dryRun = .allowed := by
      rw [gateFor, hdry, hopen]
      rfl
    have hname : s.name = m.source := by
      simpa using List.find?_some hs
    rw [mutate_of_known hs, hgate]
    exact perform (hname ▸ hs) hm m.edit

theorem mutateAll (hopen : e.gate = .allowed) (hm : before.store.Filed) {ms : List Mutation}
    (hdry : ∀ m ∈ ms, m.dryRun = false) : Told e before (e.mutateAll ms before) := by
  -- that rows are filed under their own ids goes through the run with the trail
  induction ms generalizing before with
  | nil => exact refl hm
  | cons m ms ih =>
    have hfirst : Told e before (e.mutate m before).2 :=
      mutate hopen hm (hdry m List.mem_cons_self)
    have hrest := ih hfirst.filed fun m' hm' => hdry m' (List.mem_cons_of_mem _ hm')
    exact hfirst.trans hrest

end Told

/-- After a run of changes with an open gate, the tables are those before it with the audit entries
of the run applied to them one after the other. -/
theorem rows_mutateAll_eq_redo (hopen : e.gate = .allowed) {before : Session Memory}
    (hm : before.store.Built) {ms : List Mutation} (hdry : ∀ m ∈ ms, m.dryRun = false) :
    ∃ trail, (e.mutateAll ms before).audit = before.audit ++ trail ∧
      (e.mutateAll ms before).store.rows = trail.foldl e.redo before.store.rows :=
  (Told.mutateAll hopen hm.filed hdry).redone

def sampleRun : List Mutation :=
  [⟨"posts", 1, .save (.ofList [("title", .text "c"), ("id", .integer 9)]), false⟩,
    ⟨"pages", 1, .delete, false⟩,
    ⟨"posts", 7, .delete, false⟩,
    ⟨"posts", 3, .replace { pattern := "b", replacement := some "" }, false⟩,
    ⟨"posts", 2, .delete, false⟩]

/-- Of five changes two fail, and one of these leaves an entry. -/
theorem rows_mutateAll_sample :
    let before : Session Memory := ⟨Page.sampleMemory, []⟩
    let after := sample.mutateAll sampleRun before
    sample.gate = .allowed ∧ before.store.Built ∧ (∀ m ∈ sampleRun, m.dryRun = false) ∧
      ∃ trail : List AuditEntry,
        trail.map (fun entry => (entry.rowId, entry.changes.toList)) =
          [(1, [("title", .text "c")]), (7, []), (3, [("title", .text "a")]), (2, [])] ∧
        after.store.rows = trail.foldl sample.redo before.store.rows := by
  intro before after
  have hm : before.store.Built := Page.sampleMemory_built
  have hdry : ∀ m ∈ sampleRun, m.dryRun = false := by
    simp [sampleRun]
  obtain ⟨trail, haudit, hrows⟩ := rows_mutateAll_eq_redo (e := sample) rfl hm hdry
  refine ⟨rfl, hm, hdry, trail, ?_, hrows⟩
  rw [List.nil_append] at haudit
  rw [← haudit]
  rfl

end Engine

end TableSearch
