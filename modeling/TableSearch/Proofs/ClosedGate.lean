import TableSearch.Proofs.Run

/-!
# A closed gate leaves the trail of a real write

With a closed gate a save, a delete and a replacement over a store in memory leave the tables as
they are, and the audit entries that they would leave with an open gate. A save and a replacement
also answer the same. Calls that read never write, so in a run whose changes all have a closed gate
the tables stay what they were.
-/
namespace TableSearch

/-- Of two sessions after a change, the first has the store of before, and both have the same new
audit entries. -/
structure Rehearses (before closed opened : Session Memory) : Prop where
  store : closed.store = before.store
  trail : ∃ trail, closed.audit = before.audit ++ trail ∧ opened.audit = before.audit ++ trail

namespace Rehearses

variable {before : Session Memory}

theorem refl : Rehearses before before before :=
  ⟨rfl, [], (List.append_nil _).symm, (List.append_nil _).symm⟩

theorem of_entry (entry : AuditEntry) (store : Memory) :
    Rehearses before ⟨before.store, before.audit ++ [entry]⟩
      ⟨store, before.audit ++ [entry]⟩ :=
  ⟨rfl, [entry], rfl, rfl⟩

end Rehearses

namespace Source

variable (s : Source) {before : Session Memory}

theorem save_denied (hm : before.store.Filed) (rowId : Int64) (changes : Changes) :
    Rehearses before (s.save .denied rowId changes before).2
        (s.save .allowed rowId changes before).2 ∧
      (s.save .denied rowId changes before).1 = (s.save .allowed rowId changes before).1 := by
  rw [save_inMemory hm, save_inMemory hm]
  split
  · exact ⟨.refl, rfl⟩
  · split
    · exact ⟨.refl, rfl⟩
    · exact ⟨.of_entry _ _, rfl⟩

theorem delete_denied (rowId : Int64) (before : Session Memory) :
    Rehearses before (s.delete .denied rowId before).2 (s.delete .allowed rowId before).2 := by
  rw [delete_inMemory, delete_inMemory]
  exact .of_entry _ _

theorem replace_denied (hm : before.store.Filed) (rowId : Int64) (phrase : Phrase) :
    Rehearses before (s.replace .denied rowId phrase before).2
        (s.replace .allowed rowId phrase before).2 ∧
      (s.replace .denied rowId phrase before).1 = (s.replace .allowed rowId phrase before).1 := by
  rw [replace_inMemory, replace_inMemory]
  split
  · exact ⟨.refl, rfl⟩
  · rename_i changes _
    obtain ⟨hrehearsed, hanswer⟩ := s.save_denied hm rowId changes
    exact ⟨hrehearsed, congrArg (Except.map fun _ => changes) hanswer⟩

theorem perform_denied (hm : before.store.Filed) (rowId : Int64) (edit : Edit) :
    Rehearses before (s.perform .denied rowId edit before).2
        (s.perform .allowed rowId edit before).2 ∧
      (edit ≠ .delete →
        (s.perform .denied rowId edit before).1 = (s.perform .allowed rowId edit before).1) := by
  cases edit with
  | save changes =>
    obtain ⟨hrehearsed, hanswer⟩ := s.save_denied hm rowId changes
    simp only [perform, Access.map_apply]
    exact ⟨hrehearsed, fun _ => congrArg _ hanswer⟩
  | delete =>
    simp only [perform, Access.map_apply]
    exact ⟨s.delete_denied rowId before, fun h => absurd rfl h⟩
  | replace phrase =>
    obtain ⟨hrehearsed, hanswer⟩ := s.replace_denied hm rowId phrase
    simp only [perform, Access.map_apply]
    exact ⟨hrehearsed, fun _ => congrArg _ hanswer⟩

end Source

namespace Engine

variable {before : Session Memory}

/-- Whether a call finds the gate closed, if it asks for it. -/
def Closes (e : Engine) : Call → Prop
  | .mutate m => e.gate = .denied ∨ m.dryRun = true
  | _ => True

theorem gateFor_of_closes {e : Engine} {m : Mutation} (h : e.Closes (.mutate m)) :
    e.gateFor m.dryRun = .denied := by
  unfold gateFor
  rcases h with hgate | hdry
  · rw [hgate, ite_self]
  · rw [if_pos hdry]

theorem mutate_closed {e : Engine} {m : Mutation} (hm : before.store.Filed)
    (hclosed : e.Closes (.mutate m)) :
    let opened := mutate { e with gate := .allowed } { m with dryRun := false } before
    Rehearses before (e.mutate m before).2 opened.2 ∧
      (m.edit ≠ .delete → (e.mutate m before).1 = opened.1) := by
  intro opened
  cases hs : e.registry.get? m.source with
  | none =>
    have hopened : opened = (.error (.unknownSource m.source), before) :=
      mutate_of_unknown (e := { e with gate := .allowed }) (m := { m with dryRun := false }) hs
        before
    rw [mutate_of_unknown hs, hopened]
    exact ⟨.refl, fun _ => rfl⟩
  | some s =>
    have hopened : opened =
        ((s.perform .allowed m.rowId m.edit before).1.mapError .source,
          (s.perform .allowed m.rowId m.edit before).2) :=
      mutate_of_known (e := { e with gate := .allowed }) (m := { m with dryRun := false }) hs before
    rw [mutate_of_known hs, hopened, gateFor_of_closes hclosed]
    obtain ⟨hrehearsed, hanswer⟩ := s.perform_denied hm m.rowId m.edit
    exact ⟨hrehearsed, fun h => congrArg (Except.mapError EngineError.source) (hanswer h)⟩

/-- A call that finds the gate closed leaves the tables alone. -/
theorem store_after_of_closes {e : Engine} {c : Call} (hm : before.store.Filed)
    (hclosed : e.Closes c) : (e.after before c).store = before.store := by
  cases c with
  | mutate m => exact (mutate_closed hm hclosed).1.store
  | search source request => exact e.searchOne_reads source request before.store
  | searchMany sources request => exact e.searchMany_reads sources request before.store
  | suggest source column partialText =>
    exact e.suggest_reads source column partialText before.store
  | preload source f => exact e.preload_reads source f before.store
  | row source rowId => exact e.row?_reads source rowId before.store

theorem store_run_of_closes {steps : List (Engine × Call)} (hm : before.store.Filed)
    (hclosed : ∀ step ∈ steps, step.1.Closes step.2) :
    (steps.foldl (fun b step => step.1.after b step.2) before).store = before.store := by
  induction steps generalizing before with
  | nil => rfl
  | cons step steps ih =>
    have hstep : (step.1.after before step.2).store = before.store :=
      store_after_of_closes hm (hclosed step List.mem_cons_self)
    have hrest := ih (hstep ▸ hm) fun later hlater => hclosed later (List.mem_cons_of_mem _ hlater)
    rw [List.foldl_cons, hrest, hstep]

/-- With a closed gate a change leaves the tables alone and the audit entries that it leaves with an
open one; all but a delete also answer the same. In a run whose changes all find the gate closed,
the tables stay what they were. -/
theorem closed_gate_rehearses (hm : before.store.Built) :
    (∀ (e : Engine) (m : Mutation), e.gate = .denied ∨ m.dryRun = true →
      let closed := e.mutate m before
      let opened := mutate { e with gate := .allowed } { m with dryRun := false } before
      closed.2.store = before.store ∧
        (∃ trail, closed.2.audit = before.audit ++ trail ∧
          opened.2.audit = before.audit ++ trail) ∧
        (m.edit ≠ .delete → closed.1 = opened.1)) ∧
      ∀ steps : List (Engine × Call), (∀ step ∈ steps, step.1.Closes step.2) →
        (steps.foldl (fun b step => step.1.after b step.2) before).store = before.store := by
  refine ⟨fun e m hclosed => ?_, fun steps hclosed => store_run_of_closes hm.filed hclosed⟩
  obtain ⟨⟨hstore, htrail⟩, hanswer⟩ := mutate_closed (e := e) (m := m) hm.filed hclosed
  exact ⟨hstore, htrail, hanswer⟩

/-- A dry run of a replacement reports and audits the change that it would make; nor does a delete
after it, on an engine that may not write, change the tables. -/
theorem closed_gate_sample :
    let before : Session Memory := ⟨Page.sampleMemory, []⟩
    let replace : Mutation :=
      ⟨"posts", 3, .replace { pattern := "b", replacement := some "" }, true⟩
    let delete : Mutation := ⟨"posts", 2, .delete, false⟩
    let reader : Engine := { sample with gate := .denied }
    let changes : Changes := .ofList [("title", .text "a")]
    let steps := [(sample, .mutate replace), (sample, .search "posts" Page.sampleRequest),
      (reader, .mutate delete)]
    before.store.Built ∧ (∀ step ∈ steps, step.1.Closes step.2) ∧
      (sample.mutate replace before).2 = ⟨before.store, [⟨"save", "posts", 3, changes⟩]⟩ ∧
      (sample.mutate replace before).1 = .ok (some changes) ∧
      (steps.foldl (fun b step => step.1.after b step.2) before).store = before.store := by
  intro before replace delete reader changes steps
  have hm : before.store.Built := Page.sampleMemory_built
  have hclosed : ∀ step ∈ steps, step.1.Closes step.2 := by
    simp [steps, Closes, replace, reader]
  have hedit : replace.edit ≠ .delete := by simp [replace]
  obtain ⟨hrehearsed, hrun⟩ := closed_gate_rehearses hm
  obtain ⟨hstore, ⟨trail, haudit, hopened⟩, hanswer⟩ := hrehearsed sample replace (.inr rfl)
  have hanswered : (sample.mutate { replace with dryRun := false } before).1 =
      .ok (some changes) := rfl
  have hopen : (sample.mutate { replace with dryRun := false } before).2.audit =
      [⟨"save", "posts", 3, changes⟩] := rfl
  refine ⟨hm, hclosed, ?_, (hanswer hedit).trans hanswered, hrun steps hclosed⟩
  rw [Session.mk.injEq]
  exact ⟨hstore, haudit.trans (hopened.symm.trans hopen)⟩

end Engine

end TableSearch
