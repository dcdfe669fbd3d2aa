import TableSearch.Proofs.Memory

/-!
# How changes of a row end

Over any store a save and a delete end in one of a few ways. Each way says what the store answered,
what was audited, and what the caller is told. A replacement first reads the changes that the phrase
makes in the row and then saves them.
-/
namespace TableSearch

namespace Finder

theorem exists_replaceAll {f : Finder} (h : f.replacement.isSome = true) (text : String) :
    ∃ replaced, f.replaceAll text = .ok replaced := by
  obtain ⟨r, hr⟩ := Option.isSome_iff_exists.mp h
  unfold replaceAll
  rw [hr]
  exact ⟨_, rfl⟩

end Finder

namespace Source

variable {σ : Type} [Store σ]

/-- The ways in which a save ends. What the store answered decides between them, once the source has
taken a change. -/
inductive SaveOutcome (s : Source) (gate : Gate) (rowId : Int64) (changes : Changes)
    (before : Session σ) : Except SourceError Unit × Session σ → Prop
  | nothing (hempty : (s.accepted changes).isEmpty = true) :
    SaveOutcome s gate rowId changes before (.ok (), before)
  | missing {answer : Except StoreError (Option Row)} {read : σ}
    (hsome : (s.accepted changes).isEmpty = false)
    (hfetch : Store.fetch s.table rowId before.store = (answer, read))
    (hmissing : ∀ row, answer ≠ .ok (some row)) :
    SaveOutcome s gate rowId changes before
      (.error (.updateFailed s.noun), ⟨read, before.audit⟩)
  | audited {row : Row} {read : σ}
    (hsome : (s.accepted changes).isEmpty = false)
    (hfetch : Store.fetch s.table rowId before.store = (.ok (some row), read))
    (hgate : gate = .denied) :
    SaveOutcome s gate rowId changes before
      (.ok (), ⟨read, before.audit ++ [s.saveEntry rowId changes]⟩)
  | written {row : Row} {read done : σ}
    (hsome : (s.accepted changes).isEmpty = false)
    (hfetch : Store.fetch s.table rowId before.store = (.ok (some row), read))
    (hgate : gate = .allowed)
    (hupdate : Store.update s.table ⟨row.id, s.accepted changes⟩ read = (.ok true, done)) :
    SaveOutcome s gate rowId changes before
      (.ok (), ⟨done, before.audit ++ [s.saveEntry rowId changes]⟩)
  | unwritten {row : Row} {answer : Except StoreError Bool} {read done : σ}
    (hsome : (s.accepted changes).isEmpty = false)
    (hfetch : Store.fetch s.table rowId before.store = (.ok (some row), read))
    (hgate : gate = .allowed)
    (hupdate : Store.update s.table ⟨row.id, s.accepted changes⟩ read = (answer, done))
    (hanswer : answer ≠ .ok true) :
    SaveOutcome s gate rowId changes before
      (.error (.updateFailed s.noun), ⟨done, before.audit ++ [s.saveEntry rowId changes]⟩)

/-- The ways in which a delete ends. It is audited in each of them. -/
inductive DeleteOutcome (s : Source) (gate : Gate) (rowId : Int64) (before : Session σ) :
    Except SourceError Unit × Session σ → Prop
  | audited (hgate : gate = .denied) :
    DeleteOutcome s gate rowId before
      (.ok (), ⟨before.store, before.audit ++ [s.deleteEntry rowId]⟩)
  | removed {done : σ} (hgate : gate = .allowed)
    (hdelete : Store.delete s.table rowId before.store = (.ok true, done)) :
    DeleteOutcome s gate rowId before (.ok (), ⟨done, before.audit ++ [s.deleteEntry rowId]⟩)
  | unremoved {answer : Except StoreError Bool} {done : σ} (hgate : gate = .allowed)
    (hdelete : Store.delete s.table rowId before.store = (answer, done))
    (hanswer : answer ≠ .ok true) :
    DeleteOutcome s gate rowId before
      (.error (.deleteFailed s.noun), ⟨done, before.audit ++ [s.deleteEntry rowId]⟩)

section Steps

variable {s : Source} {gate : Gate} {rowId : Int64} {changes : Changes} {before : Session σ}

theorem saveFetch_of_isEmpty (h : (s.accepted changes).isEmpty = true) :
    s.saveFetch rowId changes before = (.ok none, before) := by
  unfold saveFetch
  rw [if_pos h]
  rfl

theorem save_of_accepted_isEmpty (h : (s.accepted changes).isEmpty = true) :
    s.save gate rowId changes before = (.ok (), before) := by
  rw [save, Access.bind_ok (saveFetch_of_isEmpty h)]
  rfl

theorem save_of_isEmpty (h : changes.isEmpty = true) :
    s.save gate rowId changes before = (.ok (), before) := by
  apply save_of_accepted_isEmpty
  rw [Dict.isEmpty_iff, accepted, Dict.toList_filter, Dict.isEmpty_iff.mp h]
  rfl

theorem saveFetch_found {row : Row} {read : σ} (hsome : (s.accepted changes).isEmpty = false)
    (hfetch : Store.fetch s.table rowId before.store = (.ok (some row), read)) :
    s.saveFetch rowId changes before = (.ok (some row), ⟨read, before.audit⟩) := by
  unfold saveFetch
  rw [hsome, if_neg Bool.false_ne_true, Access.bind_ok (Session.call_ok hfetch)]
  rfl

theorem saveFetch_missing {answer : Except StoreError (Option Row)} {read : σ}
    (hsome : (s.accepted changes).isEmpty = false)
    (hfetch : Store.fetch s.table rowId before.store = (answer, read))
    (hmissing : ∀ row, answer ≠ .ok (some row)) :
    s.saveFetch rowId changes before =
      (.error (.updateFailed s.noun), ⟨read, before.audit⟩) := by
  unfold saveFetch
  rw [hsome, if_neg Bool.false_ne_true, Access.bind_ok (Session.call_ok hfetch)]
  rcases answer with e | _ | row
  · rfl
  · rfl
  · exact absurd rfl (hmissing row)

theorem saveUpdate_apply (row : Row) :
    s.saveUpdate .allowed rowId changes (some row) before =
      (if (Store.update s.table ⟨row.id, s.accepted changes⟩ before.store).1 matches .ok true
        then .ok () else .error (.updateFailed s.noun),
        ⟨(Store.update s.table ⟨row.id, s.accepted changes⟩ before.store).2,
          before.audit ++ [s.saveEntry rowId changes]⟩) := by
  rcases hupdate : Store.update s.table ⟨row.id, s.accepted changes⟩ before.store with
    ⟨answer, done⟩
  have hcall : (Session.call (Store.update s.table ⟨row.id, s.accepted changes⟩) :
      Access (Session σ) SourceError _)
        ⟨before.store, before.audit ++ [s.saveEntry rowId changes]⟩ =
          (.ok answer, ⟨done, before.audit ++ [s.saveEntry rowId changes]⟩) :=
    Session.call_ok hupdate
  rw [saveUpdate, Access.bind_ok (Session.record_apply _ _), Access.bind_ok hcall]
  rcases answer with e | _ | _ <;> rfl

theorem saveUpdate_written {row : Row} {done : σ}
    (hupdate : Store.update s.table ⟨row.id, s.accepted changes⟩ before.store =
      (.ok true, done)) :
    s.saveUpdate .allowed rowId changes (some row) before =
      (.ok (), ⟨done, before.audit ++ [s.saveEntry rowId changes]⟩) := by
  rw [saveUpdate_apply, hupdate]
  rfl

theorem saveUpdate_unwritten {row : Row} {answer : Except StoreError Bool} {done : σ}
    (hupdate : Store.update s.table ⟨row.id, s.accepted changes⟩ before.store = (answer, done))
    (hanswer : answer ≠ .ok true) :
    s.saveUpdate .allowed rowId changes (some row) before =
      (.error (.updateFailed s.noun), ⟨done, before.audit ++ [s.saveEntry rowId changes]⟩) := by
  rw [saveUpdate_apply, hupdate]
  rcases answer with e | _ | _
  · rfl
  · rfl
  · exact absurd rfl hanswer

theorem save_outcome :
    SaveOutcome s gate rowId changes before (s.save gate rowId changes before) := by
  cases hempty : (s.accepted changes).isEmpty with
  | true =>
    rw [save_of_accepted_isEmpty hempty]
    exact .nothing hempty
  | false =>
    rcases hfetch : Store.fetch s.table rowId before.store with ⟨answer, read⟩
    by_cases hfound : ∃ row, answer = .ok (some row)
    · obtain ⟨row, rfl⟩ := hfound
      rw [save, Access.bind_ok (saveFetch_found hempty hfetch)]
      cases gate with
      | denied => exact .audited hempty hfetch rfl
      | allowed =>
        rcases hupdate : Store.update s.table ⟨row.id, s.accepted changes⟩ read with
          ⟨answer, done⟩
        by_cases hanswer : answer = .ok true
        · subst hanswer
          rw [saveUpdate_written hupdate]
          exact .written hempty hfetch rfl hupdate
        · rw [saveUpdate_unwritten hupdate hanswer]
          exact .unwritten hempty hfetch rfl hupdate hanswer
    · have hmissing : ∀ row, answer ≠ .ok (some row) := not_exists.mp hfound
      rw [save, Access.bind_error (saveFetch_missing hempty hfetch hmissing)]
      exact .missing hempty hfetch hmissing

theorem delete_outcome : DeleteOutcome s gate rowId before (s.delete gate rowId before) := by
  unfold delete
  rw [Access.bind_ok (Session.record_apply _ _)]
  cases gate with
  | denied => exact .audited rfl
  | allowed =>
    cases hdelete : Store.delete s.table rowId before.store with
    | mk answer done =>
      have hcall : (Session.call (Store.delete s.table rowId) : Access (Session σ) SourceError _)
          ⟨before.store, before.audit ++ [s.deleteEntry rowId]⟩ =
            (.ok answer, ⟨done, before.audit ++ [s.deleteEntry rowId]⟩) := Session.call_ok hdelete
      dsimp only
      rw [Access.bind_ok hcall]
      rcases answer with e | _ | _
      · exact .unremoved rfl hdelete nofun
      · exact .unremoved rfl hdelete nofun
      · exact .removed rfl hdelete

end Steps

section Replacing

theorem exists_replacements {f : Finder} (hf : f.replacement.isSome = true) (row : Row)
    (columns : List Column) : ∃ changes, replacements f row columns = .ok changes := by
  induction columns with
  | nil => exact ⟨.empty, rfl⟩
  | cons c cs ih =>
    obtain ⟨rest, hrest⟩ := ih
    obtain ⟨replaced, hreplaced⟩ := f.exists_replaceAll hf (row.get c.id).display
    simp only [replacements, hrest, hreplaced, bind, Except.bind, pure, Except.pure]
    split
    · exact ⟨rest, rfl⟩
    · split
      · exact ⟨rest, rfl⟩
      · exact ⟨rest.insert c.id (.text replaced), rfl⟩

def replaceable (s : Source) : List Column := s.schema.globalColumns.filter (·.modify)

def edits (s : Source) (rowId : Int64) (phrase : Phrase) : Access σ SourceError Changes := fun st =>
  match phrase.compile with
  | .error e => (.error (.filter e), st)
  | .ok f =>
    if f.replacement.isNone then (.error (.filter .missingReplacement), st)
    else
      match Store.fetch s.table rowId st with
      | (.ok (some row), read) => ((replacements f row s.replaceable).mapError .filter, read)
      | (_, read) => (.error (.updateFailed s.noun), read)

/-- The ways in which the changes of a phrase are found. -/
inductive EditsOutcome (s : Source) (rowId : Int64) (phrase : Phrase) (before : σ) :
    Except SourceError Changes × σ → Prop
  | malformed {e : FilterError} (hphrase : phrase.compile = .error e) :
    EditsOutcome s rowId phrase before (.error (.filter e), before)
  | bare {f : Finder} (hphrase : phrase.compile = .ok f) (hf : f.replacement = none) :
    EditsOutcome s rowId phrase before (.error (.filter .missingReplacement), before)
  | missing {f : Finder} {answer : Except StoreError (Option Row)} {read : σ}
    (hphrase : phrase.compile = .ok f) (hf : f.replacement.isSome = true)
    (hfetch : Store.fetch s.table rowId before = (answer, read))
    (hmissing : ∀ row, answer ≠ .ok (some row)) :
    EditsOutcome s rowId phrase before (.error (.updateFailed s.noun), read)
  | found {f : Finder} {row : Row} {read : σ} {changes : Changes}
    (hphrase : phrase.compile = .ok f) (hf : f.replacement.isSome = true)
    (hfetch : Store.fetch s.table rowId before = (.ok (some row), read))
    (hchanges : replacements f row s.replaceable = .ok changes) :
    EditsOutcome s rowId phrase before (.ok changes, read)

variable {s : Source} {gate : Gate} {rowId : Int64} {phrase : Phrase}

theorem edits_outcome (before : σ) :
    EditsOutcome s rowId phrase before (s.edits rowId phrase before) := by
  unfold edits
  cases hphrase : phrase.compile with
  | error e => exact .malformed hphrase
  | ok f =>
    dsimp only
    split
    · rename_i hf
      exact .bare hphrase (Option.isNone_iff_eq_none.mp hf)
    · rename_i hf
      have hf : f.replacement.isSome = true := by simpa [Option.isSome_iff_ne_none] using hf
      rcases hfetch : Store.fetch s.table rowId before with ⟨_ | _ | row, read⟩
      · exact .missing hphrase hf hfetch nofun
      · exact .missing hphrase hf hfetch nofun
      · obtain ⟨changes, hchanges⟩ := exists_replacements hf row s.replaceable
        dsimp only
        rw [hchanges]
        exact .found hphrase hf hfetch hchanges

/-- A replacement saves the changes that the phrase makes in the row, and reports them. -/
theorem replace_eq :
    (s.replace gate rowId phrase : Access (Session σ) SourceError Changes) = do
      let changes ← Session.onStore (s.edits rowId phrase)
      s.save gate rowId changes
      return changes := by
  funext before
  have houtcome : EditsOutcome s rowId phrase before.store _ := edits_outcome before.store
  generalize hedits : s.edits rowId phrase before.store = found at houtcome
  have hstored := Session.onStore_apply hedits
  unfold replace
  cases houtcome with
  | malformed hphrase =>
    rw [Access.bind_error hstored, hphrase]
    rfl
  | bare hphrase hf =>
    rw [Access.bind_error hstored, hphrase]
    dsimp only
    rw [hf]
    rfl
  | missing hphrase hf hfetch hmissing =>
    rename_i answer read
    rw [Access.bind_error hstored, hphrase]
    dsimp only
    rw [if_neg (by simp [← Option.not_isSome, hf]), Access.bind_ok (Session.call_ok hfetch)]
    rcases answer with e | _ | row
    · rfl
    · rfl
    · exact absurd rfl (hmissing row)
  | found hphrase hf hfetch hchanges =>
    rw [Access.bind_ok hstored, hphrase]
    dsimp only
    rw [if_neg (by simp [← Option.not_isSome, hf]), Access.bind_ok (Session.call_ok hfetch)]
    dsimp only
    rw [← replaceable, hchanges]
    dsimp only
    split
    · rename_i hempty
      rw [Access.bind_ok (save_of_isEmpty hempty)]
    · rfl

theorem replace_of_edits_error {before : Session σ} {e : SourceError} {read : σ}
    (h : s.edits rowId phrase before.store = (.error e, read)) :
    s.replace gate rowId phrase before = (.error e, ⟨read, before.audit⟩) := by
  rw [replace_eq, Access.bind_error (Session.onStore_apply h)]

theorem replace_of_edits_ok {before : Session σ} {changes : Changes} {read : σ}
    (h : s.edits rowId phrase before.store = (.ok changes, read)) :
    s.replace gate rowId phrase before =
      ((s.save gate rowId changes ⟨read, before.audit⟩).1.map fun _ => changes,
        (s.save gate rowId changes ⟨read, before.audit⟩).2) := by
  rw [replace_eq, Access.bind_ok (Session.onStore_apply h)]
  rcases hsave : s.save gate rowId changes ⟨read, before.audit⟩ with ⟨_ | _, after⟩
  · rw [Access.bind_error hsave]
    rfl
  · rw [Access.bind_ok hsave]
    rfl

end Replacing

section InMemory

variable {s : Source} {gate : Gate} {rowId : Int64} {changes : Changes} {phrase : Phrase}
  {before : Session Memory}

theorem found_inMemory {m read : Memory} {row : Row}
    (h : Store.fetch s.table rowId m = (.ok (some row), read)) :
    m.fetch s.table rowId = some row ∧ read = m := by
  rw [Memory.fetch_apply] at h
  obtain ⟨hrow, hread⟩ := Prod.mk.inj h
  exact ⟨Except.ok.inj hrow, hread.symm⟩

theorem missing_inMemory {m read : Memory} {answer : Except StoreError (Option Row)}
    (h : Store.fetch s.table rowId m = (answer, read)) (hmissing : ∀ row, answer ≠ .ok (some row)) :
    m.fetch s.table rowId = none ∧ read = m := by
  rw [Memory.fetch_apply] at h
  obtain ⟨hanswer, hread⟩ := Prod.mk.inj h
  subst answer
  refine ⟨?_, hread.symm⟩
  rw [Option.eq_none_iff_forall_ne_some]
  intro row hrow
  exact hmissing row (congrArg Except.ok hrow)

/-- Saving in memory: a row that is there is written if the gate is open. The gate decides nothing
else. -/
theorem save_inMemory (hm : before.store.Filed) :
    s.save gate rowId changes before =
      if (s.accepted changes).isEmpty then (.ok (), before)
      else if (before.store.fetch s.table rowId).isNone then
        (.error (.updateFailed s.noun), before)
      else
        (.ok (), ⟨if gate = .denied then before.store
          else (before.store.update s.table ⟨rowId, s.accepted changes⟩).2,
          before.audit ++ [s.saveEntry rowId changes]⟩) := by
  have houtcome : SaveOutcome s gate rowId changes before _ := save_outcome
  generalize s.save gate rowId changes before = ended at houtcome
  have hupdated {row : Row} {answer : Except StoreError Bool} {done : Memory}
      (hrow : before.store.fetch s.table rowId = some row)
      (hupdate : Store.update s.table ⟨row.id, s.accepted changes⟩ before.store = (answer, done)) :
      answer = .ok true ∧
        done = (before.store.update s.table ⟨rowId, s.accepted changes⟩).2 := by
    rw [hm.id_eq_of_fetch hrow, Memory.update_apply hrow] at hupdate
    cases hupdate
    exact ⟨rfl, rfl⟩
  cases houtcome with
  | nothing hempty => rw [if_pos hempty]
  | missing hsome hfetch hmissing =>
    obtain ⟨hnone, rfl⟩ := missing_inMemory hfetch hmissing
    rw [if_neg (by simp [hsome]), hnone]
    rfl
  | audited hsome hfetch hgate =>
    obtain ⟨hrow, rfl⟩ := found_inMemory hfetch
    rw [if_neg (by simp [hsome]), hrow, hgate]
    rfl
  | written hsome hfetch hgate hupdate =>
    obtain ⟨hrow, rfl⟩ := found_inMemory hfetch
    obtain ⟨-, rfl⟩ := hupdated hrow hupdate
    rw [if_neg (by simp [hsome]), hrow, hgate]
    rfl
  | unwritten hsome hfetch hgate hupdate hanswer =>
    obtain ⟨hrow, rfl⟩ := found_inMemory hfetch
    exact absurd (hupdated hrow hupdate).1 hanswer

theorem delete_inMemory :
    s.delete gate rowId before =
      (if gate = .allowed ∧ (before.store.fetch s.table rowId).isNone then
          .error (.deleteFailed s.noun)
        else .ok (),
        ⟨if gate = .denied then before.store else (before.store.delete s.table rowId).2,
          before.audit ++ [s.deleteEntry rowId]⟩) := by
  have houtcome : DeleteOutcome s gate rowId before _ := delete_outcome
  generalize s.delete gate rowId before = ended at houtcome
  cases houtcome with
  | audited hgate =>
    rw [hgate]
    rfl
  | removed hgate hdelete =>
    rw [Memory.delete_apply] at hdelete
    obtain ⟨hanswer, rfl⟩ := Prod.mk.inj hdelete
    rw [hgate, ← Option.not_isSome, Except.ok.inj hanswer]
    rfl
  | unremoved hgate hdelete hanswer =>
    rw [Memory.delete_apply] at hdelete
    obtain ⟨rfl, rfl⟩ := Prod.mk.inj hdelete
    have hnone : (before.store.fetch s.table rowId).isSome = false :=
      Bool.eq_false_iff.mpr fun hsome => hanswer (congrArg Except.ok hsome)
    rw [hgate, ← Option.not_isSome, hnone]
    rfl

theorem edits_inMemory (s : Source) (rowId : Int64) (phrase : Phrase) (m : Memory) :
    (s.edits rowId phrase m).2 = m := by
  have houtcome : EditsOutcome s rowId phrase m _ := edits_outcome m
  generalize s.edits rowId phrase m = found at houtcome
  cases houtcome with
  | malformed hphrase => rfl
  | bare hphrase hf => rfl
  | missing hphrase hf hfetch hmissing => exact (missing_inMemory hfetch hmissing).2
  | found hphrase hf hfetch hchanges => exact (found_inMemory hfetch).2

/-- Replacing in memory: the phrase makes its changes, whatever the gate, and they are saved. -/
theorem replace_inMemory :
    s.replace gate rowId phrase before =
      match (s.edits rowId phrase before.store).1 with
      | .error e => (.error e, before)
      | .ok changes => ((s.save gate rowId changes before).1.map fun _ => changes,
          (s.save gate rowId changes before).2) := by
  have hread := s.edits_inMemory rowId phrase before.store
  rcases hedits : s.edits rowId phrase before.store with ⟨e | changes, read⟩
  all_goals
    rw [hedits] at hread
    subst hread
  · exact replace_of_edits_error hedits
  · exact replace_of_edits_ok hedits

end InMemory

end Source

end TableSearch
