import Mathlib.Data.List.Pairwise
import TableSearch.Proofs.Overlay
import TableSearch.Proofs.ReplaceReport

/-!
# Saves at the same time

A save takes two steps: it fetches the row, and later it updates the store. The steps of several
saves may follow each other in any order that keeps the two of each save in theirs. What a save
fetched is not written back, so each cell ends up with the value of the last update that writes it.
Main statement: no update is lost, and saves that write different cells end in every order in the
store that they leave one after the other (`Saving.store_run`).
-/
namespace TableSearch

namespace Source

section InMemory

variable {s : Source} {rowId : Int64} {changes : Changes} {before : Session Memory}
  {row existing : Row}

theorem saveFetch_inMemory :
    s.saveFetch rowId changes before =
      (if (s.accepted changes).isEmpty then .ok none
        else
          match before.store.fetch s.table rowId with
          | none => .error (.updateFailed s.noun)
          | some row => .ok (some row), before) := by
  split
  · rename_i hempty
    exact saveFetch_of_isEmpty hempty
  · rename_i hsome
    have hsome := Bool.eq_false_iff.mpr hsome
    have hfetch := before.store.fetch_apply s.table rowId
    cases hrow : before.store.fetch s.table rowId with
    | none =>
      rw [hrow] at hfetch
      exact saveFetch_missing hsome hfetch nofun
    | some row =>
      rw [hrow] at hfetch
      exact saveFetch_found hsome hfetch

/-- Updating in memory writes the changes into the row as it is now. -/
theorem saveUpdate_inMemory (hrow : before.store.fetch s.table row.id = some existing) :
    s.saveUpdate .allowed rowId changes (some row) before =
      (.ok (), ⟨(before.store.update s.table ⟨row.id, s.accepted changes⟩).2,
        before.audit ++ [s.saveEntry rowId changes]⟩) :=
  saveUpdate_written (Memory.update_apply hrow)

end InMemory

end Source

/-- A save that was asked for. -/
structure SaveRequest where
  source : Source
  rowId : Int64
  changes : Changes

namespace SaveRequest

variable (q : SaveRequest)

def save {σ : Type} [Store σ] (gate : Gate) : Access (Session σ) SourceError Unit :=
  q.source.save gate q.rowId q.changes

def accepted : Changes := q.source.accepted q.changes

/-- What the save writes into a cell, if anything. -/
def writes? (table : String) (id : Int64) (column : String) : Option Value :=
  if table = q.source.table.name ∧ id = q.rowId then q.accepted.get? column else none

/-- Whether two saves write different rows or different columns. -/
def Independent (q r : SaveRequest) : Prop :=
  (q.source.table.name, q.rowId) ≠ (r.source.table.name, r.rowId) ∨
    ∀ column, q.accepted.get? column = none ∨ r.accepted.get? column = none

instance : Std.Symm Independent where
  symm _ _ h := h.imp Ne.symm fun h column => (h column).symm

theorem Independent.writes? {q r : SaveRequest} (h : Independent q r) (table : String) (id : Int64)
    (column : String) : q.writes? table id column = none ∨ r.writes? table id column = none := by
  unfold SaveRequest.writes?
  split
  · split
    · rename_i hq hr
      rcases h with hne | hcolumns
      · exact absurd (Prod.ext (hq.1.symm.trans hr.1) (hq.2.symm.trans hr.2)) hne
      · exact hcolumns column
    · exact .inr rfl
  · exact .inl rfl

end SaveRequest

def saveAll {σ : Type} [Store σ] (requests : List SaveRequest) (gate : Gate)
    (before : Session σ) : Session σ :=
  requests.foldl (fun session q => (q.save gate session).2) before

/-- A step of one of several saves, which have numbers. -/
inductive SaveStep where
  | fetch (i : Nat)
  | update (i : Nat)
  deriving DecidableEq, Repr

namespace SaveStep

def number : SaveStep → Nat
  | fetch i => i
  | update i => i

/-- What a step writes into a cell, if anything. -/
def writes? (requests : List SaveRequest) (table : String) (id : Int64) (column : String) :
    SaveStep → Option Value
  | fetch _ => none
  | update i => requests[i]?.bind (·.writes? table id column)

end SaveStep

def stepsOf (i : Nat) (steps : List SaveStep) : List SaveStep := steps.filter (·.number == i)

/-- A schedule of `n` saves: each fetches once, and updates once after that. -/
structure Interleaves (n : Nat) (schedule : List SaveStep) : Prop where
  known : ∀ e ∈ schedule, e.number < n
  order : ∀ i < n, stepsOf i schedule = [.fetch i, .update i]

/-- The schedule in which the saves follow one another. -/
def serial (n : Nat) : List SaveStep := (List.range n).flatMap fun i => [.fetch i, .update i]

/-- What the last of some steps that write into a cell writes there. -/
def lastWrite? (requests : List SaveRequest) (steps : List SaveStep) (table : String) (id : Int64)
    (column : String) : Option Value :=
  steps.reverse.findSome? (·.writes? requests table id column)

/-- How far a save has come. -/
inductive Progress where
  | asked
  | fetched (answer : Except SourceError (Option Row))
  | ended (answer : Except SourceError Unit)

/-- A session in which saves are going on. -/
structure Saving (σ : Type) where
  session : Session σ
  progress : Nat → Progress

namespace Saving

variable {σ : Type}

def start (session : Session σ) : Saving σ := ⟨session, fun _ => .asked⟩

/-- One save has come further, and left the session so. -/
def advance (s : Saving σ) (i : Nat) (session : Session σ) (p : Progress) : Saving σ :=
  ⟨session, fun j => if j = i then p else s.progress j⟩

@[simp] theorem advance_session (s : Saving σ) (i : Nat) (session : Session σ) (p : Progress) :
    (s.advance i session p).session = session := rfl

@[simp] theorem advance_progress_self (s : Saving σ) (i : Nat) (session : Session σ)
    (p : Progress) : (s.advance i session p).progress i = p := if_pos rfl

theorem advance_progress_of_ne (s : Saving σ) {i j : Nat} (session : Session σ) (p : Progress)
    (h : j ≠ i) : (s.advance i session p).progress j = s.progress j := if_neg h

@[simp] theorem advance_advance (s : Saving σ) (i : Nat) (session session' : Session σ)
    (p p' : Progress) :
    (s.advance i session p).advance i session' p' = s.advance i session' p' := by
  unfold advance
  congr 1
  funext j
  dsimp only
  split <;> rfl

variable [Store σ]

/-- Take a step; one that is not the next of its save does nothing. A save whose first step failed
ends with that error. -/
def perform (requests : List SaveRequest) (gate : Gate) (s : Saving σ) : SaveStep → Saving σ
  | .fetch i =>
    match requests[i]?, s.progress i with
    | some q, .asked =>
      let (answer, session) := q.source.saveFetch q.rowId q.changes s.session
      s.advance i session (.fetched answer)
    | _, _ => s
  | .update i =>
    match requests[i]?, s.progress i with
    | some _, .fetched (.error e) => s.advance i s.session (.ended (.error e))
    | some q, .fetched (.ok fetched) =>
      let (answer, session) := q.source.saveUpdate gate q.rowId q.changes fetched s.session
      s.advance i session (.ended answer)
    | _, _ => s

def run (requests : List SaveRequest) (gate : Gate) (s : Saving σ) (schedule : List SaveStep) :
    Saving σ :=
  schedule.foldl (perform requests gate) s

/-- The steps of a save that directly follow each other are the save. -/
theorem perform_update_fetch {requests : List SaveRequest} {gate : Gate} {s : Saving σ} {i : Nat}
    {q : SaveRequest} (hq : requests[i]? = some q) (hasked : s.progress i = .asked) :
    (s.perform requests gate (.fetch i)).perform requests gate (.update i) =
      s.advance i (q.save gate s.session).2 (.ended (q.save gate s.session).1) := by
  unfold SaveRequest.save Source.save
  rcases hfetch : q.source.saveFetch q.rowId q.changes s.session with ⟨e | fetched, session⟩
  · rw [Access.bind_error hfetch]
    simp [perform, hq, hasked, hfetch]
  · rw [Access.bind_ok hfetch]
    simp [perform, hq, hasked, hfetch]
    rfl

end Saving

section Steps

variable {i j : Nat} {e : SaveStep} {done : List SaveStep} {requests : List SaveRequest}

theorem stepsOf_append (i : Nat) (done rest : List SaveStep) :
    stepsOf i (done ++ rest) = stepsOf i done ++ stepsOf i rest := List.filter_append _ _

theorem stepsOf_cons_self (h : e.number = i) (rest : List SaveStep) :
    stepsOf i (e :: rest) = e :: stepsOf i rest := List.filter_cons_of_pos (by simp [h])

theorem stepsOf_concat_of_ne (h : e.number ≠ i) : stepsOf i (done ++ [e]) = stepsOf i done := by
  simp [stepsOf, h]

theorem lastWrite?_concat (table : String) (id : Int64) (column : String) :
    lastWrite? requests (done ++ [e]) table id column =
      (e.writes? requests table id column).or (lastWrite? requests done table id column) := by
  unfold lastWrite?
  rw [List.reverse_append, List.reverse_singleton, List.singleton_append, List.findSome?_cons]
  cases e.writes? requests table id column <;> rfl

theorem lastWrite?_eq_some {table : String} {id : Int64} {column : String} {v : Value}
    (h : lastWrite? requests done table id column = some v) :
    ∃ q ∈ requests, q.writes? table id column = some v := by
  obtain ⟨e, -, hwrites⟩ := List.exists_of_findSome?_eq_some h
  cases e with
  | fetch i => cases hwrites
  | update i =>
    obtain ⟨q, hq, hwrites⟩ := Option.bind_eq_some_iff.mp hwrites
    exact ⟨q, List.mem_of_getElem? hq, hwrites⟩

theorem serial_succ (n : Nat) : serial (n + 1) = serial n ++ [.fetch n, .update n] := by
  rw [serial, List.range_succ, List.flatMap_append]
  rfl

theorem stepsOf_serial (i n : Nat) :
    stepsOf i (serial n) = if i < n then [.fetch i, .update i] else [] := by
  induction n with
  | zero => rfl
  | succ n ih =>
    rw [serial_succ, stepsOf_append, ih]
    rcases Nat.lt_trichotomy i n with hlt | rfl | hgt
    · rw [if_pos hlt, if_pos (Nat.lt_succ_of_lt hlt)]
      simp [stepsOf, SaveStep.number, hlt.ne']
    · rw [if_neg (Nat.lt_irrefl i), if_pos (Nat.lt_succ_self i)]
      simp [stepsOf, SaveStep.number]
    · rw [if_neg (Nat.lt_asymm hgt), if_neg (Nat.not_lt.mpr hgt)]
      simp [stepsOf, SaveStep.number, hgt.ne]

theorem interleaves_serial (n : Nat) : Interleaves n (serial n) where
  known e he := by
    obtain ⟨i, hi, he⟩ := List.mem_flatMap.mp he
    have hnumber : e.number = i := by
      simp only [List.mem_cons, List.not_mem_nil, or_false] at he
      rcases he with rfl | rfl <;> rfl
    rw [hnumber]
    exact List.mem_range.mp hi
  order i hi := by rw [stepsOf_serial, if_pos hi]

end Steps

/-- The steps of saves that follow one another are the saves. -/
theorem Saving.run_serial {σ : Type} [Store σ] (requests : List SaveRequest) (gate : Gate)
    (before : Session σ) :
    (run requests gate (.start before) (serial requests.length)).session =
      saveAll requests gate before := by
  have htaken (n : Nat) (hn : n ≤ requests.length) :
      (run requests gate (.start before) (serial n)).session =
          saveAll (requests.take n) gate before ∧
        ∀ i, n ≤ i → (run requests gate (.start before) (serial n)).progress i = .asked := by
    induction n with
    | zero => exact ⟨rfl, fun _ _ => rfl⟩
    | succ n ih =>
      obtain ⟨hsession, hasked⟩ := ih (Nat.le_of_succ_le hn)
      have hq : requests[n]? = some requests[n] := List.getElem?_eq_getElem hn
      have hrun : run requests gate (.start before) (serial (n + 1)) =
          ((run requests gate (.start before) (serial n)).perform requests gate
            (.fetch n)).perform requests gate (.update n) := by
        rw [serial_succ, run, List.foldl_append]
        rfl
      rw [hrun, perform_update_fetch hq (hasked n le_rfl), advance_session, hsession,
        List.take_succ_eq_append_getElem hn, saveAll, saveAll, List.foldl_append]
      refine ⟨rfl, fun i hi => ?_⟩
      rw [advance_progress_of_ne _ _ _ (by omega)]
      exact hasked i (Nat.le_of_succ_le hi)
  have hall := (htaken requests.length le_rfl).1
  rwa [List.take_length] at hall

namespace SaveRequest

variable {q : SaveRequest} {m : Memory}

/-- What the first step of a save finds, whenever it is taken. -/
inductive Finds (q : SaveRequest) (m : Memory) : Except SourceError (Option Row) → Prop
  | nothing (h : q.accepted.isEmpty = true) : Finds q m (.ok none)
  | missing (hsome : q.accepted.isEmpty = false) (h : m.fetch q.source.table q.rowId = none) :
    Finds q m (.error (.updateFailed q.source.noun))
  | found {row : Row} (h : row.id = q.rowId)
    (hrow : (m.fetch q.source.table q.rowId).isSome = true) : Finds q m (.ok (some row))

/-- What a save answers: it fails if there is something to write and no row to write it into. -/
def answer (q : SaveRequest) (m : Memory) : Except SourceError Unit :=
  if q.accepted.isEmpty || (m.fetch q.source.table q.rowId).isSome then .ok ()
  else .error (.updateFailed q.source.noun)

theorem save_answer {gate : Gate} {before : Session Memory} (hm : before.store.Filed) :
    (q.save gate before).1 = q.answer before.store := by
  rw [save, Source.save_inMemory hm]
  unfold answer accepted
  cases (q.source.accepted q.changes).isEmpty <;>
    cases before.store.fetch q.source.table q.rowId <;> rfl

/-- How far a save has come by its steps. -/
inductive Follows (q : SaveRequest) (m : Memory) (i : Nat) : List SaveStep → Progress → Prop
  | asked : Follows q m i [] .asked
  | fetched {answer : Except SourceError (Option Row)} (h : q.Finds m answer) :
    Follows q m i [.fetch i] (.fetched answer)
  | ended : Follows q m i [.fetch i, .update i] (.ended (q.answer m))

end SaveRequest

namespace Saving

/-- A state that some steps lead to: each cell has what was written there last, and the saves have
come as far as their steps. -/
structure Reached (requests : List SaveRequest) (before : Memory) (done : List SaveStep)
    (s : Saving Memory) : Prop where
  overlaid : before.Overlaid (lastWrite? requests done) s.session.store
  follows {i : Nat} {q : SaveRequest} (hq : requests[i]? = some q) :
    q.Follows before i (stepsOf i done) (s.progress i)

namespace Reached

variable {requests : List SaveRequest} {before : Memory} {done : List SaveStep} {s : Saving Memory}
  {i : Nat} {q : SaveRequest}

theorem start (requests : List SaveRequest) (session : Session Memory) :
    Reached requests session.store [] (.start session) where
  overlaid := .refl session.store
  follows _ := .asked

theorem advance (h : Reached requests before done s) {e : SaveStep} {session : Session Memory}
    {p : Progress} (hq : requests[e.number]? = some q)
    (hoverlaid : before.Overlaid (lastWrite? requests (done ++ [e])) session.store)
    (hfollows : q.Follows before e.number (stepsOf e.number done ++ [e]) p) :
    Reached requests before (done ++ [e]) (s.advance e.number session p) where
  overlaid := hoverlaid
  follows {j r} hr := by
    by_cases hj : j = e.number
    · subst hj
      obtain rfl : r = q := Option.some.inj (hr.symm.trans hq)
      rw [advance_progress_self, stepsOf_append, stepsOf_cons_self rfl]
      exact hfollows
    · rw [advance_progress_of_ne _ _ _ hj, stepsOf_concat_of_ne (Ne.symm hj)]
      exact h.follows hr

theorem fetch (hm : before.Filed) (h : Reached requests before done s) (hq : requests[i]? = some q)
    (hnext : stepsOf i done = []) :
    Reached requests before (done ++ [.fetch i]) (s.perform requests .allowed (.fetch i)) := by
  have hfollows := h.follows hq
  rw [hnext] at hfollows
  generalize hprogress : s.progress i = p at hfollows
  cases hfollows
  have hfinds : q.Finds before (q.source.saveFetch q.rowId q.changes s.session).1 := by
    rw [Source.saveFetch_inMemory]
    dsimp only
    split
    · rename_i hempty
      exact .nothing hempty
    · rename_i hsome
      have hsome : q.accepted.isEmpty = false := Bool.eq_false_iff.mpr hsome
      cases hrow : (before.rows q.source.table.name).get? q.rowId with
      | none =>
        have hnow : s.session.store.fetch q.source.table q.rowId = none := h.overlaid.absent hrow
        rw [hnow]
        exact .missing hsome hrow
      | some row =>
        obtain ⟨now, hnow, hid, -⟩ := h.overlaid.present hrow
        have hnow : s.session.store.fetch q.source.table q.rowId = some now := hnow
        rw [hnow]
        exact .found (hid.trans (hm.id_eq_of_fetch hrow)) (Option.isSome_iff_exists.mpr ⟨row, hrow⟩)
  have hperform : s.perform requests .allowed (.fetch i) =
      s.advance i s.session (.fetched (q.source.saveFetch q.rowId q.changes s.session).1) := by
    rw [perform, hq, hprogress]
    dsimp only
    rw [Source.saveFetch_inMemory]
  rw [hperform]
  refine h.advance hq (h.overlaid.congr fun _ column => ?_) ?_
  · rw [lastWrite?_concat]
    rfl
  · change q.Follows before i (stepsOf i done ++ [.fetch i]) _
    rw [hnext]
    exact .fetched hfinds

theorem update (h : Reached requests before done s) (hq : requests[i]? = some q)
    (hnext : stepsOf i done = [.fetch i]) :
    Reached requests before (done ++ [.update i]) (s.perform requests .allowed (.update i)) := by
  have hfollows := h.follows hq
  rw [hnext] at hfollows
  generalize hprogress : s.progress i = p at hfollows
  have hended {answer : Except SourceError Unit} (hanswer : q.answer before = answer) :
      q.Follows before i (stepsOf i done ++ [.update i]) (.ended answer) := by
    rw [hnext, ← hanswer]
    exact .ended
  have hwrites (table : String) (id : Int64) (column : String) :
      (SaveStep.update i).writes? requests table id column = q.writes? table id column := by
    rw [SaveStep.writes?, hq]
    rfl
  cases hfollows with
  | fetched hfinds =>
    cases hfinds with
    | nothing hempty =>
      have hperform : s.perform requests .allowed (.update i) =
          s.advance i s.session (.ended (.ok ())) := by
        rw [perform, hq, hprogress]
        rfl
      rw [hperform]
      refine h.advance hq (h.overlaid.congr fun _ column => ?_)
        (hended (by rw [SaveRequest.answer, hempty]; rfl))
      rw [lastWrite?_concat, hwrites, SaveRequest.writes?, Dict.get?_of_isEmpty hempty]
      split <;> rfl
    | missing hsome hmissing =>
      have hperform : s.perform requests .allowed (.update i) =
          s.advance i s.session (.ended (.error (.updateFailed q.source.noun))) := by
        rw [perform, hq, hprogress]
      rw [hperform]
      refine h.advance hq (h.overlaid.congr fun hrow column => ?_)
        (hended (by rw [SaveRequest.answer, hsome, hmissing]; rfl))
      rw [lastWrite?_concat, hwrites, SaveRequest.writes?, if_neg]
      · rfl
      · rintro ⟨rfl, rfl⟩
        rw [Memory.fetch, hrow] at hmissing
        cases hmissing
    | found hid hrow =>
      rename_i row
      obtain ⟨old, hold⟩ := Option.isSome_iff_exists.mp hrow
      obtain ⟨now, hnow, -, -⟩ := h.overlaid.present hold
      rw [← hid] at hnow
      have hperform : s.perform requests .allowed (.update i) =
          s.advance i ⟨(s.session.store.update q.source.table ⟨row.id, q.accepted⟩).2,
            s.session.audit ++ [q.source.saveEntry q.rowId q.changes]⟩ (.ended (.ok ())) := by
        rw [perform, hq, hprogress]
        dsimp only
        rw [Source.saveUpdate_inMemory hnow]
        rfl
      rw [hperform]
      refine h.advance hq ?_ (hended (by rw [SaveRequest.answer, hrow, Bool.or_true]; rfl))
      refine (h.overlaid.update hnow Source.accepted_idColumn).congr fun _ column => ?_
      rw [lastWrite?_concat, hwrites, SaveRequest.writes?, hid]
      split <;> rfl

end Reached

variable {requests : List SaveRequest} {before : Session Memory} {schedule : List SaveStep}

/-- A whole schedule keeps each of its steps in its place. -/
theorem reached_run (hm : before.store.Filed) (h : Interleaves requests.length schedule) :
    Reached requests before.store schedule (run requests .allowed (.start before) schedule) := by
  have hrest (rest done : List SaveStep) (s : Saving Memory) (hdone : done ++ rest = schedule)
      (hs : Reached requests before.store done s) :
      Reached requests before.store schedule (run requests .allowed s rest) := by
    induction rest generalizing done s with
    | nil =>
      rw [List.append_nil] at hdone
      subst hdone
      exact hs
    | cons e rest ih =>
      have he : e.number < requests.length :=
        h.known e (hdone ▸ List.mem_append_right done List.mem_cons_self)
      have hq : requests[e.number]? = some requests[e.number] := List.getElem?_eq_getElem he
      have horder := h.order e.number he
      rw [← hdone, stepsOf_append, stepsOf_cons_self rfl] at horder
      refine ih (done ++ [e]) (s.perform requests .allowed e) ?_ ?_
      · rw [List.append_assoc]
        exact hdone
      · cases e with
        | fetch i =>
          refine hs.fetch hm hq ?_
          rcases hbefore : stepsOf i done with _ | ⟨e, _ | ⟨e', l⟩⟩
          · rfl
          all_goals simp [SaveStep.number, hbefore] at horder
        | update i =>
          refine hs.update hq ?_
          rcases hbefore : stepsOf i done with _ | ⟨e, _ | ⟨e', l⟩⟩
          all_goals simp [SaveStep.number, hbefore] at horder
          rw [horder.1]
  exact hrest schedule [] (.start before) rfl (.start requests before)

/-- Every save has ended, with the answer that it would have given alone. -/
theorem progress_run (hm : before.store.Filed) (h : Interleaves requests.length schedule) {i : Nat}
    {q : SaveRequest} (hq : requests[i]? = some q) :
    (run requests .allowed (.start before) schedule).progress i =
      .ended (q.save .allowed before).1 := by
  have hfollows := (reached_run hm h).follows hq
  have hi : i < requests.length := (List.getElem?_eq_some_iff.mp hq).1
  rw [h.order i hi] at hfollows
  rw [SaveRequest.save_answer hm]
  generalize (run requests .allowed (.start before) schedule).progress i = p at hfollows
  cases hfollows
  rfl

/-- Among saves that write different cells, each write is the last one into its cell. -/
theorem lastWrite?_eq_some_iff (hdisjoint : requests.Pairwise SaveRequest.Independent)
    (h : Interleaves requests.length schedule) {table : String} {id : Int64} {column : String}
    {v : Value} :
    lastWrite? requests schedule table id column = some v ↔
      ∃ q ∈ requests, q.writes? table id column = some v := by
  constructor
  · exact lastWrite?_eq_some
  · rintro ⟨q, hq, hwrites⟩
    obtain ⟨i, hi, rfl⟩ := List.mem_iff_getElem.mp hq
    have hstep : SaveStep.update i ∈ schedule := by
      have hmem : SaveStep.update i ∈ stepsOf i schedule := by simp [h.order i hi]
      exact List.mem_of_mem_filter hmem
    have hsome : (lastWrite? requests schedule table id column).isSome = true := by
      rw [lastWrite?, List.findSome?_isSome_iff]
      refine ⟨.update i, List.mem_reverse.mpr hstep, ?_⟩
      simp [SaveStep.writes?, hi, hwrites]
    obtain ⟨w, hw⟩ := Option.isSome_iff_exists.mp hsome
    obtain ⟨r, hr, hwrites'⟩ := lastWrite?_eq_some hw
    rw [hw, ← hwrites, ← hwrites']
    by_cases hqr : requests[i] = r
    · rw [hqr]
    · have hindependent : SaveRequest.Independent requests[i] r :=
        hdisjoint.forall hq hr hqr
      rcases hindependent.writes? table id column with hnone | hnone
      · rw [hnone] at hwrites
        cases hwrites
      · rw [hnone] at hwrites'
        cases hwrites'

/-- Every cell of a row that was there has what the last update that writes it writes, or else what
it had; there are no other rows. Each save ends with the answer that it gives alone. Of saves that
write different cells every write is found at the end, and the store is the same for every schedule:
the one that the saves leave when they follow one another. The two steps of a save that nothing
comes between are the save. -/
theorem store_run (hm : before.store.Built) (h : Interleaves requests.length schedule) :
    let after (schedule : List SaveStep) : Saving Memory :=
      run requests .allowed (.start before) schedule
    before.store.Overlaid (lastWrite? requests schedule) (after schedule).session.store ∧
    (∀ i q, requests[i]? = some q →
      (after schedule).progress i = .ended (q.save .allowed before).1) ∧
    (requests.Pairwise SaveRequest.Independent →
      (∀ q ∈ requests, ∀ row, before.store.fetch q.source.table q.rowId = some row →
        ∃ row', (after schedule).session.store.fetch q.source.table q.rowId = some row' ∧
          ∀ column v, q.accepted.get? column = some v → row'.cells.get? column = some v) ∧
      (after schedule).session.store = (saveAll requests .allowed before).store ∧
      ∀ schedule', Interleaves requests.length schedule' →
        (after schedule').session.store = (after schedule).session.store) ∧
    ∀ (s : Saving Memory) (gate : Gate) i q, requests[i]? = some q → s.progress i = .asked →
      (s.perform requests gate (.fetch i)).perform requests gate (.update i) =
        s.advance i (q.save gate s.session).2 (.ended (q.save gate s.session).1) := by
  intro after
  have hoverlaid {schedule : List SaveStep} (h : Interleaves requests.length schedule) :
      before.store.Overlaid (lastWrite? requests schedule) (after schedule).session.store :=
    (reached_run hm.filed h).overlaid
  refine ⟨hoverlaid h, fun i q => progress_run hm.filed h, fun hdisjoint => ?_,
    fun s gate i q => perform_update_fetch⟩
  have hsame {schedule' : List SaveStep} (h' : Interleaves requests.length schedule') :
      (after schedule').session.store = (after schedule).session.store := by
    refine ((hoverlaid h').congr fun _ column => ?_).unique (hoverlaid h)
    apply Option.ext
    intro v
    rw [lastWrite?_eq_some_iff hdisjoint h', lastWrite?_eq_some_iff hdisjoint h]
  refine ⟨?_, ?_, fun schedule' => hsame⟩
  · intro q hq row hrow
    obtain ⟨row', hrow', -, hcells⟩ := (hoverlaid h).present hrow
    refine ⟨row', hrow', fun column v hv => ?_⟩
    have hlast : lastWrite? requests schedule q.source.table.name q.rowId column = some v := by
      rw [lastWrite?_eq_some_iff hdisjoint h]
      exact ⟨q, hq, (if_pos ⟨rfl, rfl⟩).trans hv⟩
    rw [hcells, hlast, Option.some_or]
  · rw [← run_serial]
    exact (hsame (interleaves_serial requests.length)).symm

def sampleSource : Source where
  name := "posts"
  label := "Posts"
  kind := .core
  className := "TableSource"
  schema := ⟨"posts", "posts", [{ id := "title", type := .string, title := "Title" },
    { id := "status", type := .string, title := "Status" }]⟩
  titleColumn := "title"

/-- Two saves that fetch the same row before either of them updates it leave both writes, as they
do one after the other. -/
theorem store_run_sample :
    let row : Row := ⟨1, .ofList [("title", .text "a"), ("status", .text "b")]⟩
    let before : Session Memory := ⟨({} : Memory).insert sampleSource.table row, []⟩
    let requests : List SaveRequest := [⟨sampleSource, 1, .ofList [("title", .text "c")]⟩,
      ⟨sampleSource, 1, .ofList [("status", .text "d")]⟩]
    let schedule : List SaveStep := [.fetch 0, .fetch 1, .update 1, .update 0]
    let after : Saving Memory := run requests .allowed (.start before) schedule
    before.store.Built ∧ Interleaves requests.length schedule ∧
      requests.Pairwise SaveRequest.Independent ∧
      after.session.store = (saveAll requests .allowed before).store ∧
      after.progress 0 = .ended (.ok ()) ∧
      ∃ row', after.session.store.fetch sampleSource.table 1 = some row' ∧
        row'.cells.get? "title" = some (.text "c") ∧
        row'.cells.get? "status" = some (.text "d") := by
  intro row before requests schedule
  have hm : before.store.Built := Memory.Built.empty.insert _ _
  have hschedule : Interleaves requests.length schedule := ⟨by decide, by decide⟩
  have hdisjoint : requests.Pairwise SaveRequest.Independent := by
    rw [List.pairwise_pair]
    refine .inr fun column => ?_
    by_cases hcolumn : column = "title"
    · subst hcolumn
      exact .inr rfl
    · have hne : compare column "title" ≠ .eq := fun he => hcolumn (Std.compare_eq_iff_eq.mp he)
      exact .inl (if_neg hne)
  obtain ⟨-, hanswers, hrun, -⟩ := store_run hm hschedule
  obtain ⟨hsurvive, hserial, -⟩ := hrun hdisjoint
  beta_reduce at hanswers hsurvive hserial
  generalize run requests .allowed (.start before) schedule = after at hanswers hsurvive hserial ⊢
  obtain ⟨row', hrow', htitle⟩ := hsurvive _ List.mem_cons_self _ rfl
  obtain ⟨row'', hrow'', hstatus⟩ := hsurvive _ (List.mem_cons_of_mem _ List.mem_cons_self) _ rfl
  obtain rfl : row' = row'' := Option.some.inj (hrow'.symm.trans hrow'')
  have hanswer : after.progress 0 = .ended (.ok ()) := by
    rw [hanswers 0 _ rfl, SaveRequest.save_answer hm.filed]
    rfl
  exact ⟨hm, hschedule, hdisjoint, hserial, hanswer, row', hrow', htitle _ _ rfl, hstatus _ _ rfl⟩

end Saving

end TableSearch
