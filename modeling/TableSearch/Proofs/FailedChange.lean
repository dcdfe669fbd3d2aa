import TableSearch.Proofs.PageSpec
import TableSearch.Proofs.Mutation
import TableSearch.Store.Faults

/-!
# A change that fails has changed nothing

Over a store whose failing calls leave its content alone, a save, a delete and a replacement that
fail leave it alone as well, wherever the failure was. A delete is audited first. A save, and so a
replacement, that fails has an audit entry only if its own fetch found the row and the store was
asked to write it. A store in memory is such a store, with any plan of faults.
-/
namespace TableSearch

/-- Of what `view` shows of a store, fetching changes nothing, nor does a write that did not find
its row or failed. -/
structure Store.FailsCleanly {σ τ : Type} [Store σ] (view : σ → τ) : Prop where
  fetch : ∀ table id st, view (Store.fetch table id st).2 = view st
  update : ∀ table row st, (Store.update table row st).1 ≠ .ok true →
    view (Store.update table row st).2 = view st
  delete : ∀ table id st, (Store.delete table id st).1 ≠ .ok true →
    view (Store.delete table id st).2 = view st

namespace Store.FailsCleanly

variable {σ τ : Type} [Store σ] {view : σ → τ} {table : TableRef} {st done : σ}

theorem view_fetched (h : FailsCleanly view) {id : Int64} {answer : Except StoreError (Option Row)}
    (hfetch : Store.fetch table id st = (answer, done)) : view done = view st := by
  have hdone := h.fetch table id st
  rwa [hfetch] at hdone

theorem view_not_updated (h : FailsCleanly view) {row : Row} {answer : Except StoreError Bool}
    (hupdate : Store.update table row st = (answer, done)) (hanswer : answer ≠ .ok true) :
    view done = view st := by
  have hdone := h.update table row st
  rw [hupdate] at hdone
  exact hdone hanswer

theorem view_not_deleted (h : FailsCleanly view) {id : Int64} {answer : Except StoreError Bool}
    (hdelete : Store.delete table id st = (answer, done)) (hanswer : answer ≠ .ok true) :
    view done = view st := by
  have hdone := h.delete table id st
  rw [hdelete] at hdone
  exact hdone hanswer

end Store.FailsCleanly

theorem Memory.failsCleanly : Store.FailsCleanly (id : Memory → Memory) where
  fetch _ _ _ := rfl
  update table row m h := by
    change (m.update table row).2 = m
    cases hrow : m.fetch table row.id with
    | none =>
      unfold update
      rw [hrow]
    | some existing =>
      rw [update_apply hrow] at h
      exact absurd rfl h
  delete table id m h := by
    change (m.delete table id).2 = m
    cases hrow : m.fetch table id with
    | none =>
      unfold delete
      rw [hrow]
    | some existing =>
      rw [delete_apply, hrow] at h
      exact absurd rfl h

namespace Faulty

variable {σ τ α : Type} {view : σ → τ}

/-- A call that reaches the content does there what it does without faults. -/
theorem call_cases (operation : Operation) (nothing : α) (go : Access σ StoreError α)
    (st : Faulty σ) :
    (call operation nothing go st).2.content = st.content ∨
      (call operation nothing go st).1 = (go st.content).1 ∧
        (call operation nothing go st).2.content = (go st.content).2 := by
  unfold call
  dsimp only
  split
  · exact .inl rfl
  · exact .inl rfl
  · exact .inr ⟨rfl, rfl⟩

/-- Faults of any plan keep a store one that fails cleanly. -/
theorem failsCleanly [Store σ] (h : Store.FailsCleanly view) :
    Store.FailsCleanly fun st : Faulty σ => view st.content where
  fetch table id st := by
    rcases call_cases .fetch none (Store.fetch table id) st with hsame | ⟨-, hcontent⟩
    · exact congrArg view hsame
    · exact (congrArg view hcontent).trans (h.fetch table id st.content)
  update table row st hfailed := by
    rcases call_cases .update false (Store.update table row) st with hsame | ⟨hanswer, hcontent⟩
    · exact congrArg view hsame
    · exact (congrArg view hcontent).trans
        (h.update table row st.content fun hok => hfailed (hanswer.trans hok))
  delete table id st hfailed := by
    rcases call_cases .delete false (Store.delete table id) st with hsame | ⟨hanswer, hcontent⟩
    · exact congrArg view hsame
    · exact (congrArg view hcontent).trans
        (h.delete table id st.content fun hok => hfailed (hanswer.trans hok))

end Faulty

/-- A save that was audited and then failed: its fetch found the row, the gate was open, and the
store was asked to write the row and did not. -/
structure Unwritten {σ : Type} [Store σ] (s : Source) (gate : Gate) (rowId : Int64)
    (changes : Changes) (before after : Session σ) : Prop where
  gate : gate = .allowed
  asked : ∃ row read answer, Store.fetch s.table rowId before.store = (.ok (some row), read) ∧
    Store.update s.table ⟨row.id, s.accepted changes⟩ read = (answer, after.store) ∧
    answer ≠ .ok true
  audit : after.audit = before.audit ++ [s.saveEntry rowId changes]

namespace Source

variable {σ τ : Type} [Store σ] {view : σ → τ} {s : Source} {gate : Gate} {rowId : Int64}
  {before after : Session σ} {e : SourceError}

theorem save_failed (hview : Store.FailsCleanly view) {changes : Changes}
    (h : s.save gate rowId changes before = (.error e, after)) :
    view after.store = view before.store ∧
      (after.audit = before.audit ∨ Unwritten s gate rowId changes before after) := by
  have houtcome : SaveOutcome s gate rowId changes before (.error e, after) := h ▸ save_outcome
  cases houtcome with
  | missing hsome hfetch hmissing => exact ⟨hview.view_fetched hfetch, .inl rfl⟩
  | @unwritten row answer read done hsome hfetch hgate hupdate hanswer =>
    have hdone := (hview.view_not_updated hupdate hanswer).trans (hview.view_fetched hfetch)
    exact ⟨hdone, .inr ⟨hgate, ⟨row, read, answer, hfetch, hupdate, hanswer⟩, rfl⟩⟩

theorem delete_failed (hview : Store.FailsCleanly view)
    (h : s.delete gate rowId before = (.error e, after)) :
    view after.store = view before.store ∧
      after.audit = before.audit ++ [s.deleteEntry rowId] := by
  have houtcome : DeleteOutcome s gate rowId before (.error e, after) := h ▸ delete_outcome
  cases houtcome with
  | unremoved hgate hdelete hanswer => exact ⟨hview.view_not_deleted hdelete hanswer, rfl⟩

theorem replace_failed (hview : Store.FailsCleanly view) {phrase : Phrase}
    (h : s.replace gate rowId phrase before = (.error e, after)) :
    view after.store = view before.store ∧
      (after.audit = before.audit ∨ ∃ f row read changes, phrase.compile = .ok f ∧
        Store.fetch s.table rowId before.store = (.ok (some row), read) ∧
        replacements f row s.replaceable = .ok changes ∧
        Unwritten s gate rowId changes ⟨read, before.audit⟩ after) := by
  have houtcome : EditsOutcome s rowId phrase before.store _ := edits_outcome before.store
  generalize hedits : s.edits rowId phrase before.store = found at houtcome
  cases houtcome with
  | malformed hphrase =>
    rw [replace_of_edits_error hedits] at h
    cases h
    exact ⟨rfl, .inl rfl⟩
  | bare hphrase hf =>
    rw [replace_of_edits_error hedits] at h
    cases h
    exact ⟨rfl, .inl rfl⟩
  | missing hphrase hf hfetch hmissing =>
    rw [replace_of_edits_error hedits] at h
    cases h
    exact ⟨hview.view_fetched hfetch, .inl rfl⟩
  | @found f row read changes hphrase hf hfetch hchanges =>
    -- the save fetches the row again, in the state that the first fetch left
    rw [replace_of_edits_ok hedits] at h
    rcases hsave : s.save gate rowId changes ⟨read, before.audit⟩ with ⟨e' | _, saved⟩
    · rw [hsave] at h
      cases h
      obtain ⟨hstore, haudit⟩ := save_failed hview hsave
      refine ⟨hstore.trans (hview.view_fetched hfetch), haudit.imp_right fun hunwritten => ?_⟩
      exact ⟨f, row, read, changes, hphrase, hfetch, hchanges, hunwritten⟩
    · rw [hsave] at h
      cases h

theorem replace_refused {phrase : Phrase}
    (h : ∀ f, phrase.compile = .ok f → f.replacement = none) :
    ∃ e, s.replace gate rowId phrase before = (.error (.filter e), before) := by
  have houtcome : EditsOutcome s rowId phrase before.store _ := edits_outcome before.store
  generalize hedits : s.edits rowId phrase before.store = found at houtcome
  cases houtcome with
  | malformed hphrase => exact ⟨_, replace_of_edits_error hedits⟩
  | bare hphrase hf => exact ⟨_, replace_of_edits_error hedits⟩
  | missing hphrase hf hfetch hmissing =>
    rw [h _ hphrase] at hf
    cases hf
  | found hphrase hf hfetch hchanges =>
    rw [h _ hphrase] at hf
    cases hf

/-- Over a store in memory with any plan of faults, a change that fails leaves the tables as they
are. Then a delete has left one audit entry, and a save, also that of a replacement, has left one if
its own fetch found the row and the update that it asked for was not made. A replacement with a
phrase that does not compile or has no replacement leaves none. -/
theorem failed_change_atomic (s : Source) (gate : Gate) (rowId : Int64)
    (before : Session (Faulty Memory)) :
    (∀ changes e after, s.save gate rowId changes before = (.error e, after) →
      after.store.content = before.store.content ∧
        (after.audit = before.audit ∨ Unwritten s gate rowId changes before after)) ∧
    (∀ e after, s.delete gate rowId before = (.error e, after) →
      after.store.content = before.store.content ∧
        after.audit = before.audit ++ [s.deleteEntry rowId]) ∧
    (∀ phrase e after, s.replace gate rowId phrase before = (.error e, after) →
      after.store.content = before.store.content ∧
        (after.audit = before.audit ∨ ∃ f row read changes, phrase.compile = .ok f ∧
          Store.fetch s.table rowId before.store = (.ok (some row), read) ∧
          replacements f row s.replaceable = .ok changes ∧
          Unwritten s gate rowId changes ⟨read, before.audit⟩ after)) ∧
    ∀ phrase : Phrase, (∀ f, phrase.compile = .ok f → f.replacement = none) →
      ∃ e, s.replace gate rowId phrase before = (.error (.filter e), before) := by
  have hview : Store.FailsCleanly fun st : Faulty Memory => st.content :=
    Faulty.failsCleanly Memory.failsCleanly
  exact ⟨fun _ _ _ h => save_failed hview h, fun _ _ h => delete_failed hview h,
    fun _ _ _ h => replace_failed hview h, fun _ h => replace_refused h⟩

def sampleFaulty : Faulty Memory where
  content := Page.sampleMemory
  plan
    | _, .update => some .error
    | _, _ => none

def sampleEnd : Except SourceError Changes × Session (Faulty Memory) :=
  Page.sampleSource.replace .allowed 3 { pattern := "b", replacement := some "" }
    ⟨sampleFaulty, []⟩

/-- Where updates fail, the change of a replacement is audited and not made. -/
theorem failed_change_sample :
    sampleEnd.1 = .error (.updateFailed "row") ∧
      sampleEnd.2.store.content = Page.sampleMemory ∧
      sampleEnd.2.audit = [⟨"save", "posts", 3, .ofList [("title", .text "a")]⟩] := by
  have hfailed : sampleEnd.1 = .error (.updateFailed "row") := rfl
  have hended : sampleEnd = (.error (.updateFailed "row"), sampleEnd.2) := by
    rw [← hfailed]
  obtain ⟨-, -, hreplace, -⟩ :=
    failed_change_atomic Page.sampleSource .allowed 3 ⟨sampleFaulty, []⟩
  obtain ⟨hcontent, -⟩ := hreplace _ _ _ hended
  exact ⟨hfailed, hcontent, rfl⟩

end Source

end TableSearch
