import Mathlib.Algebra.Group.Nat.Defs
import TableSearch.Page
import TableSearch.Proofs.Assembly

/-!
# The page that a request asks for

A page over a store in memory is a slice of the rows that the store selects, with those left out
that the request does not accept. Whether it comes from one selection or from batches of any size,
it is the same page. Rows are counted up to the one that fills the page.
-/
namespace TableSearch

section UpTo

variable {α : Type} (p : α → Bool)

/-- A list up to its `n`th element with a property, or all of it if it has fewer. -/
def upTo : Nat → List α → List α
  | 0, _ => []
  | _ + 1, [] => []
  | n + 1, a :: as =>
    match p a with
    | true => a :: upTo n as
    | false => a :: upTo (n + 1) as

variable {p}

@[simp]
theorem upTo_zero (l : List α) : upTo p 0 l = [] := by
  cases l <;> rfl

@[simp]
theorem upTo_nil (n : Nat) : upTo p n [] = [] := by
  cases n <;> rfl

theorem upTo_cons_of_pos {n : Nat} {a : α} (h : p a = true) (as : List α) :
    upTo p (n + 1) (a :: as) = a :: upTo p n as := by
  rw [upTo, h]

theorem upTo_cons_of_neg {n : Nat} {a : α} (h : p a = false) (as : List α) :
    upTo p (n + 1) (a :: as) = a :: upTo p (n + 1) as := by
  rw [upTo, h]

theorem isPrefix_upTo (n : Nat) (l : List α) : upTo p n l <+: l := by
  induction l generalizing n with
  | nil => simp
  | cons a as ih =>
    cases n with
    | zero => simp
    | succ n =>
      cases h : p a with
      | true => rw [upTo_cons_of_pos h, List.cons_prefix_cons]; exact ⟨rfl, ih n⟩
      | false => rw [upTo_cons_of_neg h, List.cons_prefix_cons]; exact ⟨rfl, ih (n + 1)⟩

theorem filter_upTo (n : Nat) (l : List α) : (upTo p n l).filter p = (l.filter p).take n := by
  induction l generalizing n with
  | nil => simp
  | cons a as ih =>
    cases n with
    | zero => simp
    | succ n =>
      cases h : p a with
      | true => simp [upTo_cons_of_pos h, h, ih]
      | false => simp [upTo_cons_of_neg h, h, ih]

theorem upTo_eq_self {n : Nat} {l : List α} (h : (l.filter p).length < n) : upTo p n l = l := by
  induction l generalizing n with
  | nil => simp
  | cons a as ih =>
    cases n with
    | zero => omega
    | succ n =>
      cases ha : p a with
      | true =>
        simp only [List.filter_cons, ha, if_true, List.length_cons] at h
        rw [upTo_cons_of_pos ha, ih (by omega)]
      | false =>
        simp only [List.filter_cons, ha, Bool.false_eq_true, if_false] at h
        rw [upTo_cons_of_neg ha, ih h]

/-- A list that has fewer than `n` such elements is counted whole, and the count goes on behind. -/
theorem upTo_append_of_lt {n : Nat} {l : List α} (h : (l.filter p).length < n) (r : List α) :
    upTo p n (l ++ r) = l ++ upTo p (n - (l.filter p).length) r := by
  induction l generalizing n with
  | nil => simp
  | cons a as ih =>
    obtain ⟨n, rfl⟩ := Nat.exists_eq_succ_of_ne_zero (Nat.ne_of_gt (Nat.zero_lt_of_lt h))
    cases ha : p a with
    | true =>
      simp only [List.filter_cons, ha, if_true, List.length_cons] at h ⊢
      rw [Nat.succ_eq_add_one, List.cons_append, upTo_cons_of_pos ha, ih (by omega),
        Nat.add_sub_add_right, List.cons_append]
    | false =>
      simp only [List.filter_cons, ha, Bool.false_eq_true, if_false] at h ⊢
      rw [Nat.succ_eq_add_one, List.cons_append, upTo_cons_of_neg ha, ih h, List.cons_append]

theorem upTo_append_of_le {n : Nat} {l : List α} (h : n ≤ (l.filter p).length) (r : List α) :
    upTo p n (l ++ r) = upTo p n l := by
  induction l generalizing n with
  | nil =>
    obtain rfl : n = 0 := Nat.le_zero.mp h
    simp
  | cons a as ih =>
    cases n with
    | zero => simp
    | succ n =>
      cases ha : p a with
      | true =>
        simp only [List.filter_cons, ha, if_true, List.length_cons] at h
        rw [List.cons_append, upTo_cons_of_pos ha, upTo_cons_of_pos ha, ih (by omega)]
      | false =>
        simp only [List.filter_cons, ha, Bool.false_eq_true, if_false] at h
        rw [List.cons_append, upTo_cons_of_neg ha, upTo_cons_of_neg ha, ih h]

theorem upTo_eq_take {l : List α} (h : ∀ a ∈ l, p a = true) (n : Nat) : upTo p n l = l.take n := by
  rw [← List.filter_eq_self.mpr fun a ha => h a ((isPrefix_upTo n l).mem ha), filter_upTo,
    List.filter_eq_self.mpr h]

end UpTo

def Request.start (r : Request) : Nat := r.offset.toInt.toNat

/-- The most results that a request asks for: at least one. -/
def Request.most (r : Request) : Nat := Page.positive (r.limit.getD Page.defaultLimit)

namespace Page

section Memory

variable (m : Memory) (s : Source) (r : Request)

/-- The rows that the store selects for a request, by ascending id. -/
def candidates : List Row := (m.rows s.schema.table).values.filter (r.admits s.schema)

/-- The page of the rows from an offset on that are accepted, up to a limit. -/
def expected (limit offset : Nat) : Page :=
  let rows := (candidates m s r).drop offset
  let accepted := rows.filter (r.accepts s.schema)
  let scanned := (upTo (r.accepts s.schema) limit rows).length
  { source := s.name
    hits := (accepted.take limit).map (Hit.shown m s r.finder)
    scanned
    next := if limit ≤ accepted.length then some (.ofNat (offset + scanned)) else none }

end Memory

theorem offset?_eq {n : Nat} (h : n < 2 ^ 63) : offset? n = some (.ofNat n) := by
  have hfits : Text.fitsInt64 n = true := by
    simp only [Text.fitsInt64, Bool.and_eq_true, decide_eq_true_eq]
    omega
  unfold offset? Text.toInt64?
  rw [if_pos hfits]
  rfl

variable {m : Memory} {s : Source} {r : Request} {q : Query}

theorem matching_eq (hq : Query.compile s.schema r = .ok q) :
    m.matching s.table.name q.native = candidates m s r := by
  unfold Memory.matching candidates
  congr 1
  funext row
  exact Query.native_accepts hq row

theorem length_candidates_le : (candidates m s r).length ≤ m.count s.schema.table := by
  refine Nat.le_trans (List.length_filter_le _ _) ?_
  simp [Dict.values, Memory.count, Dict.size]

theorem select_apply (hq : Query.compile s.schema r = .ok q) (limit offset : Nat) :
    (Store.select s.table q.native limit offset).mapError SourceError.backend m =
      (.ok (((candidates m s r).drop offset).take limit), m) := by
  rw [Access.mapError_ok (Memory.select_apply m s.table q.native limit offset)]
  unfold Memory.select
  rw [matching_eq hq, Int.toNat_natCast, Int.toNat_natCast]

/-- A fetched row gives a hit exactly if the request accepts it. That an empty match lets a row
pass the first check makes no difference. -/
theorem hit?_apply (hq : Query.compile s.schema r = .ok q) (row : Row) :
    hit? s q row m =
      (if r.accepts s.schema row then some (Hit.shown m s r.finder row) else none, m) := by
  have hpost := Query.post_accepts hq row
  have hfinder := Query.finder_eq hq
  unfold hit? Query.accepts Request.accepts
  rw [hpost, ← hfinder]
  cases hp : r.patternsHold s.schema row with
  | false => rfl
  | true =>
    cases hf : q.finder with
    | none => exact bind_state (Hit.ofRow_apply m s row none)
    | some f =>
      simp only [Bool.true_and, Option.all_some]
      cases ho : Query.occurs f s.schema row with
      | false =>
        have hnot : f.occurs s.schema row = false := by
          cases h : f.occurs s.schema row with
          | false => rfl
          | true => rw [Query.occurs_of_occurs h] at ho; exact ho
        rw [hnot]
        rfl
      | true =>
        have hmatched : (Hit.shown m s (some f) row).isMatched = f.occurs s.schema row :=
          Hit.isMatched_labelledBy s.labelOf s row f m
        rw [if_pos rfl, bind_state (Hit.ofRow_apply m s row (some f)), ← hmatched]
        cases (Hit.shown m s (some f) row).isMatched <;> rfl

/-- What examining rows finds: the accepted ones, up to as many as are wanted. -/
theorem examine_apply (hq : Query.compile s.schema r = .ok q) {want : Nat} (hw : 0 < want)
    (rows : List Row) :
    examine s q want rows m =
      ({ hits := ((rows.filter (r.accepts s.schema)).take want).map (Hit.shown m s r.finder)
         read := (upTo (r.accepts s.schema) want rows).length
         full := decide (want ≤ (rows.filter (r.accepts s.schema)).length) }, m) := by
  induction rows generalizing want with
  | nil =>
    have hnot : ¬want ≤ 0 := by omega
    simp only [examine, upTo_nil, List.filter_nil, List.take_nil, List.map_nil, List.length_nil,
      hnot, decide_false]
    rfl
  | cons row rows ih =>
    obtain ⟨n, rfl⟩ := Nat.exists_eq_add_of_lt hw
    rw [Nat.zero_add] at *
    rw [examine, bind_state (hit?_apply hq row)]
    cases ha : r.accepts s.schema row with
    | false =>
      simp only [Bool.false_eq_true, if_false]
      rw [bind_state (ih (Nat.succ_pos n))]
      simp only [List.filter_cons, ha, Bool.false_eq_true, if_false, upTo_cons_of_neg ha,
        List.length_cons]
      rfl
    | true =>
      simp only [if_true]
      by_cases hn : n = 0
      · subst hn
        have hone : 1 ≤ (row :: rows.filter (r.accepts s.schema)).length :=
          Nat.succ_le_succ (Nat.zero_le _)
        simp only [List.filter_cons, ha, if_true, upTo_cons_of_pos ha, upTo_zero, Nat.zero_add,
          hone, decide_true]
        rfl
      · have hpos : 0 < n + 1 - 1 := by omega
        rw [if_neg (by omega), bind_state (ih hpos)]
        simp only [List.filter_cons, ha, if_true, upTo_cons_of_pos ha, Nat.add_sub_cancel,
          List.length_cons, List.take_succ_cons, List.map_cons, Nat.add_le_add_iff_right]
        rfl

section Batches

theorem expected_of_le {limit offset batch : Nat}
    (h : limit ≤
      ((((candidates m s r).drop offset).take batch).filter (r.accepts s.schema)).length) :
    let rows := ((candidates m s r).drop offset).take batch
    let scanned := (upTo (r.accepts s.schema) limit rows).length
    expected m s r limit offset =
      ⟨s.name, ((rows.filter (r.accepts s.schema)).take limit).map (Hit.shown m s r.finder),
        scanned, some (.ofNat (offset + scanned))⟩ := by
  intro rows scanned
  have hrest : rows ++ ((candidates m s r).drop offset).drop batch =
      (candidates m s r).drop offset := List.take_append_drop batch _
  unfold expected
  dsimp only
  rw [← hrest, List.filter_append, List.take_append_of_le_length h, upTo_append_of_le h,
    List.length_append, if_pos (Nat.le_add_right_of_le h)]

/-- A batch that is full and does not fill the page begins it; the next batches go on behind. -/
theorem expected_of_lt {limit offset batch : Nat}
    (hfull : batch ≤ ((candidates m s r).drop offset).length)
    (h : ((((candidates m s r).drop offset).take batch).filter (r.accepts s.schema)).length <
      limit) :
    let accepted := (((candidates m s r).drop offset).take batch).filter (r.accepts s.schema)
    let rest := expected m s r (limit - accepted.length) (offset + batch)
    expected m s r limit offset =
      { rest with
        hits := accepted.map (Hit.shown m s r.finder) ++ rest.hits
        scanned := batch + rest.scanned } := by
  intro accepted rest
  have hrest : ((candidates m s r).drop offset).take batch ++
      (candidates m s r).drop (offset + batch) = (candidates m s r).drop offset := by
    rw [← List.drop_drop, List.take_append_drop]
  have hlen : (((candidates m s r).drop offset).take batch).length = batch := by
    rw [List.length_take, Nat.min_eq_left hfull]
  have htake := List.take_of_length_le (l := accepted) (Nat.le_of_lt h)
  subst rest
  unfold expected
  dsimp only
  rw [← hrest, List.filter_append, List.take_append, htake, upTo_append_of_lt h,
    List.length_append, List.length_append, List.map_append, hlen]
  simp only [Nat.sub_le_iff_le_add', Nat.add_assoc]
  rfl

theorem expected_of_short {limit offset : Nat}
    (h : (((candidates m s r).drop offset).filter (r.accepts s.schema)).length < limit) :
    let rows := (candidates m s r).drop offset
    expected m s r limit offset =
      ⟨s.name, (rows.filter (r.accepts s.schema)).map (Hit.shown m s r.finder), rows.length,
        none⟩ := by
  intro rows
  unfold expected
  dsimp only
  rw [upTo_eq_self h, List.take_of_length_le (Nat.le_of_lt h), if_neg (Nat.not_le_of_lt h)]

/-- Batches of any size give the expected page. -/
theorem scan_apply (hq : Query.compile s.schema r = .ok q)
    (hsize : m.count s.schema.table < 2 ^ 63) {batch want : Nat} (hb : 0 < batch) (hw : 0 < want)
    (cursor : Nat) :
    scan s q batch want cursor hb m = (.ok (expected m s r want cursor), m) := by
  have hcount := Nat.lt_of_le_of_lt (length_candidates_le (m := m) (s := s) (r := r)) hsize
  -- each batch moves the cursor, which stays below the number of rows
  induction hn : 2 ^ 63 - cursor using Nat.strongRecOn generalizing want cursor with
  | ind n ih =>
    let rows := ((candidates m s r).drop cursor).take batch
    let accepted := rows.filter (r.accepts s.schema)
    have hexamine : (liftM (examine s q want rows) : Access Memory SourceError Findings) m =
        (.ok { hits := (accepted.take want).map (Hit.shown m s r.finder)
               read := (upTo (r.accepts s.schema) want rows).length
               full := decide (want ≤ accepted.length) }, m) :=
      Access.liftM_ok (examine_apply hq hw rows)
    have hlen : rows.length = min batch ((candidates m s r).length - cursor) := by
      simp only [rows, List.length_take, List.length_drop]
    rw [scan, Access.bind_ok (select_apply hq batch cursor), Access.bind_ok hexamine]
    dsimp only
    by_cases hfull : want ≤ accepted.length
    · have hread := (isPrefix_upTo (p := r.accepts s.schema) want rows).length_le
      have hle : accepted.length ≤ rows.length := List.length_filter_le _ _
      rw [if_pos (decide_eq_true hfull), expected_of_le hfull, offset?_eq (by omega)]
      rfl
    · have hlt := Nat.lt_of_not_le hfull
      rw [if_neg (by simpa using hlt), upTo_eq_self hlt, List.take_of_length_le (Nat.le_of_lt hlt)]
      by_cases hmore : batch ≤ rows.length ∧ cursor + rows.length < 0x8000000000000000
      · have hbatch : rows.length = batch := by omega
        have hroom : batch ≤ ((candidates m s r).drop cursor).length := by
          rw [List.length_drop]
          omega
        have hwant : 0 < want - accepted.length := by omega
        have hnext :=
          ih (2 ^ 63 - (cursor + rows.length)) (by omega) hwant (cursor + rows.length) rfl
        rw [dif_pos hmore, List.length_map, Access.bind_ok hnext, expected_of_lt hroom hlt, hbatch]
        rfl
      · have hall : rows = (candidates m s r).drop cursor := by
          apply List.take_of_length_le
          rw [List.length_drop]
          omega
        rw [dif_neg hmore]
        have hshort :
            (((candidates m s r).drop cursor).filter (r.accepts s.schema)).length < want :=
          hall ▸ hlt
        rw [expected_of_short hshort, ← hall]
        rfl

end Batches

section Selection

theorem hitsOf_apply (rows : List Row) : hitsOf s rows m = (rows.map (Hit.shown m s none), m) := by
  induction rows with
  | nil => rfl
  | cons row rows ih =>
    rw [hitsOf, bind_state (Hit.ofRow_apply m s row none), bind_state ih]
    rfl

theorem accepts_of_isNative (hq : Query.compile s.schema r = .ok q) (hn : q.isNative = true)
    (row : Row) : r.accepts s.schema row = true := by
  simp only [Query.isNative, Bool.and_eq_true, List.isEmpty_iff, Option.isNone_iff_eq_none] at hn
  unfold Request.accepts
  rw [← Query.post_accepts hq, ← Query.finder_eq hq, hn.1, hn.2]
  rfl

theorem ofSelection_apply (hq : Query.compile s.schema r = .ok q)
    (hsize : m.count s.schema.table < 2 ^ 63) (hn : q.isNative = true) {limit : Nat}
    (hl : 0 < limit) (offset : Nat) :
    ofSelection s q limit offset m = (.ok (expected m s r limit offset), m) := by
  have hcount := Nat.lt_of_le_of_lt (length_candidates_le (m := m) (s := s) (r := r)) hsize
  have hall : ∀ row ∈ (candidates m s r).drop offset, r.accepts s.schema row = true :=
    fun row _ => accepts_of_isNative hq hn row
  have hfinder : r.finder = none := by
    rw [← Query.finder_eq hq]
    simp only [Query.isNative, Bool.and_eq_true, Option.isNone_iff_eq_none] at hn
    exact hn.2
  unfold ofSelection expected
  rw [Access.bind_ok (select_apply hq limit offset),
    Access.bind_ok (Access.liftM_ok (hitsOf_apply _))]
  dsimp only
  rw [upTo_eq_take hall, List.filter_eq_self.mpr hall, hfinder, List.length_take]
  by_cases hfull : limit ≤ ((candidates m s r).drop offset).length
  · have hlen := hfull
    rw [List.length_drop] at hlen
    rw [Nat.min_eq_left hfull, if_pos rfl, if_pos hfull, offset?_eq (by omega)]
    rfl
  · rw [if_neg hfull, if_neg (by omega)]
    rfl

end Selection

theorem search_apply (hq : Query.compile s.schema r = .ok q)
    (hsize : m.count s.schema.table < 2 ^ 63) (batch : Int64) :
    search s r batch m = (.ok (expected m s r r.most r.start), m) := by
  have hmost : 0 < r.most := positive_pos _
  unfold search
  rw [hq]
  dsimp only
  split
  · rename_i hn
    exact ofSelection_apply hq hsize hn hmost r.start
  · exact scan_apply hq hsize (positive_pos batch) hmost r.start

theorem expected_next {limit offset : Nat} {next : Int64} (hl : 0 < limit)
    (hsize : m.count s.schema.table < 2 ^ 63)
    (h : (expected m s r limit offset).next = some next) :
    next.toInt = offset + (expected m s r limit offset).scanned ∧
      0 < (expected m s r limit offset).scanned := by
  have hcount := Nat.lt_of_le_of_lt (length_candidates_le (m := m) (s := s) (r := r)) hsize
  let rows := (candidates m s r).drop offset
  have hscanned : (expected m s r limit offset).scanned =
      (upTo (r.accepts s.schema) limit rows).length := rfl
  have hread : (upTo (r.accepts s.schema) limit rows).length ≤ rows.length :=
    (isPrefix_upTo limit rows).length_le
  have hrows : rows.length = (candidates m s r).length - offset := List.length_drop
  unfold expected at h
  dsimp only at h
  split at h
  · rename_i hfull
    cases h
    have hhits := congrArg List.length (filter_upTo (p := r.accepts s.schema) limit rows)
    rw [List.length_take, Nat.min_eq_left hfull] at hhits
    have hle := List.length_filter_le (r.accepts s.schema) (upTo (r.accepts s.schema) limit rows)
    rw [hscanned]
    refine ⟨?_, by omega⟩
    change (Int64.ofNat (offset + (upTo (r.accepts s.schema) limit rows).length)).toInt = _
    rw [Int64.toInt_ofNat_of_lt (by omega)]
    omega
  · cases h

/-- What a search gives. Neither the size of batches nor the way the rows are read shows in it. -/
theorem search_eq_expected (hq : Query.compile s.schema r = .ok q)
    (hsize : m.count s.schema.table < 2 ^ 63) :
    (∀ batch, search s r batch m = (.ok (expected m s r r.most r.start), m)) ∧
      (∀ next, (expected m s r r.most r.start).next = some next →
        next.toInt = r.start + (expected m s r r.most r.start).scanned) ∧
      (q.isNative = true → ∀ batch (hb : 0 < batch),
        scan s q batch r.most r.start hb m = ofSelection s q r.most r.start m) ∧
      (m.Built → (candidates m s r).Pairwise fun a b => a.id < b.id) := by
  have hmost : 0 < r.most := positive_pos _
  refine ⟨search_apply hq hsize, fun next h => (expected_next hmost hsize h).1, ?_, ?_⟩
  · intro hn batch hb
    rw [scan_apply hq hsize hb hmost, ofSelection_apply hq hsize hn hmost]
  · intro hm
    exact (hm.filed.values_pairwise _).sublist List.filter_sublist

section Sample

/-- A source with one column, which is searched. -/
def sampleSource : Source where
  name := "posts"
  label := "Posts"
  kind := .core
  className := "TableSource"
  schema := ⟨"posts", "posts",
    [{ id := "title", type := .string, title := "Title", global := true }]⟩
  titleColumn := "title"

/-- Three rows of it, the last two with the same letter in the title. -/
def sampleMemory : Memory :=
  [(1, "a"), (2, "b"), (3, "ab")].foldl (fun m (id, title) =>
    m.insert sampleSource.table ⟨id, Dict.empty.insert "title" (.text title)⟩) {}

theorem sampleMemory_built : sampleMemory.Built :=
  ((Memory.Built.empty.insert _ _).insert _ _).insert _ _

def sampleRequest : Request := { phrase := some { pattern := "b" }, limit := some 1 }

def sampleQuery : Query := { finder := some ⟨.literal {} "b", none⟩ }

/-- The page ends with the second row, which fills it. -/
theorem search_sample :
    Query.compile sampleSource.schema sampleRequest = .ok sampleQuery ∧
      sampleMemory.count sampleSource.schema.table < 2 ^ 63 ∧
      ∃ page, (∀ batch, search sampleSource sampleRequest batch sampleMemory =
          (.ok page, sampleMemory)) ∧
        page.hits.map (·.rowId) = [2] ∧ page.scanned = 2 ∧ page.next = some 2 := by
  have hq : Query.compile sampleSource.schema sampleRequest = .ok sampleQuery := rfl
  have hsize : sampleMemory.count sampleSource.schema.table < 2 ^ 63 := by decide
  exact ⟨hq, hsize, _, (search_eq_expected hq hsize).1, rfl, rfl, rfl⟩

end Sample

end Page

end TableSearch
