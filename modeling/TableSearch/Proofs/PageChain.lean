import TableSearch.Proofs.PageSpec

/-!
# Chains of pages

A caller who asks for a page, and then for the page at each offset that is returned, sees every
accepted row once, whatever limits and sizes of batches the single requests have. A page that has a
next one has read at least one row, so offsets grow and a chain ends.
-/
namespace TableSearch

theorem filter_drop_upTo {α : Type} {p : α → Bool} (n : Nat) (l : List α) :
    (l.drop (upTo p n l).length).filter p = (l.filter p).drop n := by
  obtain ⟨rest, hrest⟩ := isPrefix_upTo (p := p) n l
  have hsplit : (l.filter p).take n ++ rest.filter p =
      (l.filter p).take n ++ (l.filter p).drop n := by
    rw [List.take_append_drop, ← filter_upTo, ← List.filter_append, hrest]
  have hdrop : l.drop (upTo p n l).length = rest :=
    calc
      l.drop (upTo p n l).length = (upTo p n l ++ rest).drop (upTo p n l).length := by rw [hrest]
      _ = rest := List.drop_left
  rw [hdrop, List.append_cancel_left hsplit]

namespace Page

/-- What one request of a chain is free to choose. -/
structure Turn where
  limit : Option Int64
  batch : Int64

def Turn.request (t : Turn) (r : Request) (offset : Int64) : Request :=
  { r with limit := t.limit, offset }

/-- The pages that follow from an offset on: each begins where the one before it says, and the last
one says nothing. -/
inductive Chain (m : Memory) (s : Source) (r : Request) : (Nat → Turn) → Int64 → List Page → Prop
  | last {turns : Nat → Turn} {offset : Int64} {page : Page} :
    search s ((turns 0).request r offset) (turns 0).batch m = (.ok page, m) → page.next = none →
    Chain m s r turns offset [page]
  | more {turns : Nat → Turn} {offset next : Int64} {page : Page} {pages : List Page} :
    search s ((turns 0).request r offset) (turns 0).batch m = (.ok page, m) →
    page.next = some next → Chain m s r (fun k => turns (k + 1)) next pages →
    Chain m s r turns offset (page :: pages)

def ids (p : Page) : List Int64 := p.hits.map (·.rowId)

variable {m : Memory} {s : Source} {r : Request} {q : Query}

/-- The ids of the accepted rows from an offset on. -/
def idsFrom (m : Memory) (s : Source) (r : Request) (offset : Nat) : List Int64 :=
  (((candidates m s r).drop offset).filter (r.accepts s.schema)).map (·.id)

theorem ids_expected (limit offset : Nat) :
    (expected m s r limit offset).ids = (idsFrom m s r offset).take limit := by
  unfold ids expected idsFrom
  rw [List.map_map, ← List.map_take]
  rfl

theorem ids_of_next_eq_none {limit offset : Nat} (h : (expected m s r limit offset).next = none) :
    (expected m s r limit offset).ids = idsFrom m s r offset := by
  rw [ids_expected]
  apply List.take_of_length_le
  unfold expected at h
  dsimp only at h
  split at h
  · cases h
  · rw [idsFrom, List.length_map]
    omega

/-- A page takes up the accepted rows before the next offset. -/
theorem ids_append_idsFrom {limit offset : Nat} {next : Int64} (hl : 0 < limit)
    (hsize : m.count s.schema.table < 2 ^ 63)
    (h : (expected m s r limit offset).next = some next) :
    (expected m s r limit offset).ids ++ idsFrom m s r next.toInt.toNat = idsFrom m s r offset := by
  obtain ⟨hnext, -⟩ := expected_next hl hsize h
  have hfrom : idsFrom m s r next.toInt.toNat = (idsFrom m s r offset).drop limit := by
    have hnat : next.toInt.toNat = offset + (expected m s r limit offset).scanned := by omega
    unfold idsFrom
    rw [hnat, ← List.drop_drop, ← List.map_drop, ← filter_drop_upTo]
    rfl
  rw [ids_expected, hfrom, List.take_append_drop]

theorem lt_next {limit : Nat} {offset next : Int64} (hl : 0 < limit)
    (hsize : m.count s.schema.table < 2 ^ 63) (ho : 0 ≤ offset)
    (h : (expected m s r limit offset.toInt.toNat).next = some next) : offset < next := by
  obtain ⟨hat, hread⟩ := expected_next hl hsize h
  have hpos : 0 ≤ offset.toInt := Int64.le_iff_toInt_le.mp ho
  rw [Int64.lt_iff_toInt_lt]
  omega

theorem search_turn (hq : Query.compile s.schema r = .ok q)
    (hsize : m.count s.schema.table < 2 ^ 63) (t : Turn) (offset : Int64) :
    ∃ limit, 0 < limit ∧ search s (t.request r offset) t.batch m =
      (.ok (expected m s r limit offset.toInt.toNat), m) :=
  ⟨(t.request r offset).most, positive_pos _,
    search_apply (r := t.request r offset) hq hsize t.batch⟩

/-- A chain is determined by what its requests choose. -/
theorem Chain.unique {turns : Nat → Turn} {offset : Int64} {pages others : List Page}
    (h : Chain m s r turns offset pages) (ho : Chain m s r turns offset others) :
    pages = others := by
  induction h generalizing others with
  | last hpage hnone =>
    cases ho with
    | last hother _ =>
      rw [hpage] at hother
      cases hother
      rfl
    | more hother hsome _ =>
      rw [hpage] at hother
      cases hother
      rw [hnone] at hsome
      cases hsome
  | more hpage hsome _ ih =>
    cases ho with
    | last hother hnone =>
      rw [hpage] at hother
      cases hother
      rw [hnone] at hsome
      cases hsome
    | more hother hnext hrest =>
      rw [hpage] at hother
      cases hother
      rw [hsome] at hnext
      cases hnext
      rw [ih hrest]

theorem exists_chain (hq : Query.compile s.schema r = .ok q)
    (hsize : m.count s.schema.table < 2 ^ 63) (turns : Nat → Turn) {start : Int64}
    (hs : 0 ≤ start) :
    ∃ pages, Chain m s r turns start pages ∧
      (start :: pages.filterMap (·.next)).Pairwise (· < ·) ∧
      pages.flatMap ids = idsFrom m s r start.toInt.toNat := by
  -- the offset grows with every page and stays below `2 ^ 63`
  induction hn : (2 ^ 63 - start.toInt).toNat using Nat.strongRecOn generalizing turns start with
  | ind n ih =>
    obtain ⟨limit, hl, hpage⟩ := search_turn hq hsize (turns 0) start
    cases hnext : (expected m s r limit start.toInt.toNat).next with
    | none =>
      refine ⟨_, .last hpage hnext, ?_, ?_⟩
      · rw [List.filterMap_cons_none hnext]
        exact List.pairwise_singleton _ _
      · rw [List.flatMap_cons, ids_of_next_eq_none hnext, List.flatMap_nil, List.append_nil]
    | some next =>
      have hgrow := lt_next hl hsize hs hnext
      have hnonneg := Int64.le_trans hs (Int64.le_of_lt hgrow)
      have hless := Int64.lt_iff_toInt_lt.mp hgrow
      have hbound := next.toInt_lt
      obtain ⟨pages, hchain, hoffsets, hids⟩ :=
        ih (2 ^ 63 - next.toInt).toNat (by omega) (fun k => turns (k + 1)) hnonneg rfl
      refine ⟨_, .more hpage hnext hchain, ?_, ?_⟩
      · rw [List.filterMap_cons_some hnext]
        refine List.pairwise_cons.mpr ⟨?_, hoffsets⟩
        intro later hlater
        rcases List.mem_cons.mp hlater with rfl | hlater
        · exact hgrow
        · exact Int64.lt_trans hgrow (List.rel_of_pairwise_cons hoffsets hlater)
      · rw [List.flatMap_cons, hids, ids_append_idsFrom hl hsize hnext]

/-- A chain of pages ends, and its pages together have the accepted rows at and behind the offset
where it began, each once and in the order of their ids. -/
theorem exists_unique_chain (hm : m.Built) (hq : Query.compile s.schema r = .ok q)
    (hsize : m.count s.schema.table < 2 ^ 63) (turns : Nat → Turn) {start : Int64}
    (hs : 0 ≤ start) :
    ∃ pages, Chain m s r turns start pages ∧
      (∀ others, Chain m s r turns start others → others = pages) ∧
      (start :: pages.filterMap (·.next)).Pairwise (· < ·) ∧
      pages.flatMap ids =
        (((candidates m s r).drop start.toInt.toNat).filter (r.accepts s.schema)).map (·.id) ∧
      (pages.flatMap ids).Pairwise (· < ·) := by
  obtain ⟨pages, hchain, hoffsets, hids⟩ := exists_chain hq hsize turns hs
  refine ⟨pages, hchain, fun others ho => ho.unique hchain, hoffsets, hids, ?_⟩
  rw [hids, idsFrom, List.pairwise_map]
  exact (((hm.filed.values_pairwise _).sublist List.filter_sublist).sublist
    (List.drop_sublist _ _)).sublist List.filter_sublist

/-- Pages of one hit each, by batches of growing size, reach both rows. -/
theorem exists_chain_sample :
    sampleMemory.Built ∧ Query.compile sampleSource.schema sampleRequest = .ok sampleQuery ∧
      sampleMemory.count sampleSource.schema.table < 2 ^ 63 ∧ (0 : Int64) ≤ 0 ∧
      ∃ pages, Chain sampleMemory sampleSource sampleRequest (fun k => ⟨some 1, .ofNat k⟩) 0 pages ∧
        pages.flatMap ids = [2, 3] := by
  have hm : sampleMemory.Built := sampleMemory_built
  have hq : Query.compile sampleSource.schema sampleRequest = .ok sampleQuery := rfl
  have hsize : sampleMemory.count sampleSource.schema.table < 2 ^ 63 := by decide
  have hs : (0 : Int64) ≤ 0 := by decide
  obtain ⟨pages, hchain, -, -, hids, -⟩ :=
    exists_unique_chain hm hq hsize (fun k => ⟨some 1, .ofNat k⟩) hs
  refine ⟨hm, hq, hsize, hs, pages, hchain, hids.trans ?_⟩
  rfl

end Page

end TableSearch
