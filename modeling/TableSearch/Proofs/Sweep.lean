import TableSearch.Proofs.PageChain
import TableSearch.Proofs.Preview
import TableSearch.Proofs.Rewriting

/-!
# Replacing page by page

A caller asks for a page, replaces in the rows of its hits, and goes on with the next page. If the
store selects every row, because all filters are patterns, then offsets count the rows of the table,
and replacing changes neither their number nor their order. The rows before an offset are done with,
those from it on are as they were at first. So the pages together have the rows that the table had
for the request at first, and each of these is rewritten once.
-/
namespace TableSearch

namespace Page

variable {m m' : Memory} {s : Source} {r : Request} {q : Query} {f : Finder} {phrase : Phrase}

section Rows

theorem candidates_sublist : (candidates m s r).Sublist (m.rows s.schema.table).values :=
  List.filter_sublist

theorem idsFrom_pairwise (hm : m.Filed) (offset : Nat) :
    (idsFrom m s r offset).Pairwise (· < ·) := by
  rw [idsFrom, List.pairwise_map]
  exact (((hm.values_pairwise _).sublist candidates_sublist).sublist
    (List.drop_sublist _ _)).sublist List.filter_sublist

theorem isSome_fetch_of_mem_idsFrom (hm : m.Filed) {offset : Nat} {id : Int64}
    (h : id ∈ idsFrom m s r offset) : (m.fetch s.table id).isSome = true := by
  obtain ⟨row, hrow, rfl⟩ := List.mem_map.mp h
  have hcandidate := (List.drop_sublist _ _).mem (List.mem_filter.mp hrow).1
  have hget := hm.get?_of_mem_values (candidates_sublist.mem hcandidate)
  exact Option.isSome_iff_exists.mpr ⟨row, hget⟩

theorem candidates_eq_values
    (h : ∀ c ∈ r.filters, c.isKnown s.schema = true → c.logic = .regex) (m : Memory) :
    candidates m s r = (m.rows s.schema.table).values := by
  unfold candidates
  rw [List.filter_eq_self]
  intro row _
  unfold Request.admits
  rw [List.all_eq_true]
  intro c hc
  obtain ⟨hmem, hknown⟩ := List.mem_filter.mp hc
  rw [h c hmem hknown]
  rfl

theorem mem_idsFrom_iff (hm : m.Filed) {offset : Nat} {row : Row}
    (hrow : row ∈ (candidates m s r).drop offset) :
    row.id ∈ idsFrom m s r offset ↔ r.accepts s.schema row = true := by
  constructor
  · intro hid
    obtain ⟨other, hother, heq⟩ := List.mem_map.mp hid
    obtain ⟨hmem, haccepted⟩ := List.mem_filter.mp hother
    have hget := hm.get?_of_mem_values (candidates_sublist.mem ((List.drop_sublist _ _).mem hrow))
    have hget' := hm.get?_of_mem_values (candidates_sublist.mem ((List.drop_sublist _ _).mem hmem))
    rw [heq, hget] at hget'
    rw [Option.some.inj hget']
    exact haccepted
  · intro haccepted
    exact List.mem_map.mpr ⟨row, List.mem_filter.mpr ⟨hrow, haccepted⟩, rfl⟩

theorem notMem_ids_of_next (hm : m.Filed) {limit offset : Nat} {next : Int64} (hl : 0 < limit)
    (hsize : m.count s.schema.table < 2 ^ 63)
    (h : (expected m s r limit offset).next = some next) {row : Row}
    (hrow : row ∈ (candidates m s r).drop next.toInt.toNat) :
    row.id ∉ (expected m s r limit offset).ids := by
  intro hid
  obtain ⟨hnext, -⟩ := expected_next hl hsize h
  have hsplit := ids_append_idsFrom hl hsize h
  have hordered := idsFrom_pairwise (s := s) (r := r) hm offset
  have hfrom : row ∈ (candidates m s r).drop offset := by
    have hat : next.toInt.toNat = offset + (expected m s r limit offset).scanned := by omega
    rw [hat, ← List.drop_drop] at hrow
    exact (List.drop_sublist _ _).mem hrow
  have haccepted : r.accepts s.schema row = true := by
    rw [← mem_idsFrom_iff hm hfrom, ← hsplit]
    exact List.mem_append_left _ hid
  have hlater := (mem_idsFrom_iff hm hrow).mpr haccepted
  rw [← hsplit, List.pairwise_append] at hordered
  exact Int64.lt_irrefl (hordered.2.2 _ hid _ hlater)

/-- Rewriting rows before an offset does not change which rows are accepted from it on. -/
theorem idsFrom_of_rewrote
    (hfilters : ∀ c ∈ r.filters, c.isKnown s.schema = true → c.logic = .regex)
    {ids : List Int64} (h : Rewrote s f ids m m') {offset : Nat}
    (hfresh : ∀ row ∈ (candidates m s r).drop offset, row.id ∉ ids) :
    idsFrom m' s r offset = idsFrom m s r offset := by
  have hsame : (candidates m' s r).drop offset = (candidates m s r).drop offset := by
    rw [candidates_eq_values hfilters, h.values, ← candidates_eq_values hfilters, ← List.map_drop]
    exact (List.map_congr_left fun row hrow =>
      Source.rewritten_of_notMem (hfresh row hrow)).trans (List.map_id' _)
  unfold idsFrom
  rw [hsame]

end Rows

/-- Ask for the page at an offset and replace in the rows of its hits. -/
def sweepPage (s : Source) (r : Request) (phrase : Phrase) (t : Turn) (offset : Int64) :
    Access (Session Memory) SourceError Page := do
  let page ← Session.onStore (search s (t.request r offset) t.batch)
  s.replaceEach phrase page.ids
  return page

/-- A sweep over the pages from an offset on: each is asked for after the replacements in the one
before it, and the last one names no next. -/
inductive Sweep (s : Source) (r : Request) (phrase : Phrase) :
    (Nat → Turn) → Int64 → Session Memory → List Page → Session Memory → Prop
  | last {turns : Nat → Turn} {offset : Int64} {before after : Session Memory} {page : Page} :
    sweepPage s r phrase (turns 0) offset before = (.ok page, after) → page.next = none →
    Sweep s r phrase turns offset before [page] after
  | more {turns : Nat → Turn} {offset next : Int64} {before between after : Session Memory}
      {page : Page} {pages : List Page} :
    sweepPage s r phrase (turns 0) offset before = (.ok page, between) → page.next = some next →
    Sweep s r phrase (fun k => turns (k + 1)) next between pages after →
    Sweep s r phrase turns offset before (page :: pages) after

section Run

variable {before after : Session Memory}

theorem Sweep.unique {turns : Nat → Turn} {offset : Int64} {pages others : List Page}
    {last : Session Memory} (h : Sweep s r phrase turns offset before pages after)
    (ho : Sweep s r phrase turns offset before others last) : others = pages ∧ last = after := by
  induction h generalizing others with
  | last hpage hnone =>
    cases ho with
    | last hother _ =>
      rw [hpage] at hother
      cases hother
      exact ⟨rfl, rfl⟩
    | more hother hsome _ =>
      rw [hpage] at hother
      cases hother
      rw [hnone] at hsome
      cases hsome
  | more hpage hsome _ ih =>
    cases ho with
    | last hother hnone =>
      rw [hpage] at hother
      cases hother
      rw [hnone] at hsome
      cases hsome
    | more hother hnext hrest =>
      rw [hpage] at hother
      cases hother
      rw [hsome] at hnext
      cases hnext
      obtain ⟨rfl, rfl⟩ := ih hrest
      exact ⟨rfl, rfl⟩

theorem sweepPage_apply (hm : before.store.Filed) (hq : Query.compile s.schema r = .ok q)
    (hsize : before.store.count s.schema.table < 2 ^ 63) (hphrase : phrase.compile = .ok f)
    (hf : f.replacement.isSome = true) (t : Turn) (offset : Int64) :
    ∃ limit after, 0 < limit ∧
      sweepPage s r phrase t offset before =
        (.ok (expected before.store s r limit offset.toInt.toNat), after) ∧
      Rewrote s f (expected before.store s r limit offset.toInt.toNat).ids before.store
        after.store := by
  obtain ⟨limit, hl, hsearch⟩ := search_turn hq hsize t offset
  have hsub : (expected before.store s r limit offset.toInt.toNat).ids.Sublist
      (idsFrom before.store s r offset.toInt.toNat) := by
    rw [ids_expected]
    exact List.take_sublist _ _
  have hnodup : (expected before.store s r limit offset.toInt.toNat).ids.Nodup :=
    ((idsFrom_pairwise hm _).sublist hsub).imp fun hlt => Int64.ne_of_lt hlt
  obtain ⟨after, hafter, hrewrote⟩ := Source.replaceEach_rewrote hm hphrase hf hnodup
    fun id hid => isSome_fetch_of_mem_idsFrom hm (hsub.mem hid)
  refine ⟨limit, after, hl, ?_, hrewrote⟩
  unfold sweepPage
  rw [Access.bind_ok (Session.onStore_apply hsearch), Access.bind_ok hafter]
  rfl

theorem exists_sweep (hq : Query.compile s.schema r = .ok q) (hphrase : phrase.compile = .ok f)
    (hf : f.replacement.isSome = true)
    (hfilters : ∀ c ∈ r.filters, c.isKnown s.schema = true → c.logic = .regex)
    (hm : before.store.Filed) (hsize : before.store.count s.schema.table < 2 ^ 63)
    (turns : Nat → Turn) {start : Int64} (hs : 0 ≤ start) :
    ∃ pages after, Sweep s r phrase turns start before pages after ∧
      pages.flatMap ids = idsFrom before.store s r start.toInt.toNat ∧
      Rewrote s f (idsFrom before.store s r start.toInt.toNat) before.store after.store := by
  induction hn : (2 ^ 63 - start.toInt).toNat using Nat.strongRecOn
    generalizing turns start before with
  | ind n ih =>
    obtain ⟨limit, between, hl, hpage, hfirst⟩ :=
      sweepPage_apply hm hq hsize hphrase hf (turns 0) start
    cases hnext : (expected before.store s r limit start.toInt.toNat).next with
    | none =>
      have hids := ids_of_next_eq_none hnext
      refine ⟨_, between, .last hpage hnext, ?_, hids ▸ hfirst⟩
      rw [List.flatMap_cons, hids, List.flatMap_nil, List.append_nil]
    | some next =>
      have hgrow := lt_next hl hsize hs hnext
      have hnonneg := Int64.le_trans hs (Int64.le_of_lt hgrow)
      have hless := Int64.lt_iff_toInt_lt.mp hgrow
      have hbound := next.toInt_lt
      -- the rows that the next page begins with are none of those just rewritten
      have hsame := idsFrom_of_rewrote hfilters hfirst fun row hrow =>
        notMem_ids_of_next hm hl hsize hnext hrow
      obtain ⟨pages, after, hsweep, hids, hrest⟩ :=
        ih (2 ^ 63 - next.toInt).toNat (by omega) (hfirst.filed hm) (hfirst.count ▸ hsize)
          (fun k => turns (k + 1)) hnonneg rfl
      rw [hsame] at hids hrest
      have hsplit := ids_append_idsFrom hl hsize hnext
      have hordered := idsFrom_pairwise (s := s) (r := r) hm start.toInt.toNat
      refine ⟨_, after, .more hpage hnext hsweep, ?_, ?_⟩
      · rw [List.flatMap_cons, hids, hsplit]
      · rw [← hsplit]
        rw [← hsplit, List.pairwise_append] at hordered
        refine hfirst.append hrest fun id hid hlater => ?_
        exact Int64.lt_irrefl (hordered.2.2 _ hid _ hlater)

end Run

/-- One pass over the table of a source: in the chosen rows every searched column that may be
changed and does not identify the row has what the phrase makes of its text. All else is as
before. -/
structure Pass (s : Source) (f : Finder) (chosen : Row → Bool) (before after : Memory) : Prop where
  row : ∀ id old, before.fetch s.table id = some old →
    ∃ new, after.fetch s.table id = some new ∧ new.id = old.id ∧
      ∀ column, new.cells.get? column =
        if chosen old = true ∧ column ≠ s.idColumn ∧
            ∃ c ∈ s.schema.columns, c.id = column ∧ c.global = true ∧ c.modify = true
        then (f.edit? (old.get column)).or (old.cells.get? column)
        else old.cells.get? column
  missing : ∀ id, before.fetch s.table id = none → after.fetch s.table id = none
  others : ∀ table, table ≠ s.schema.table → after.rows table = before.rows table

/-- Rewriting the rows whose ids are those of the chosen ones is one pass. -/
theorem Pass.of_rewrote (hnodup : s.schema.columnIds.Nodup)
    (hf : f.replacement.isSome = true) {chosen : Row → Bool} {ids : List Int64}
    (h : Rewrote s f ids m m')
    (hids : ∀ row ∈ (m.rows s.schema.table).values, row.id ∈ ids ↔ chosen row = true) :
    Pass s f chosen m m' := by
  refine ⟨fun id old hold => ?_, fun id hnone => ?_, fun table hother => ?_⟩
  · have hget : (m.rows s.schema.table).get? id = some old := hold
    have hmem : old ∈ (m.rows s.schema.table).values :=
      List.mem_map.mpr ⟨(id, old), Dict.get?_eq_some_iff.mp hget, rfl⟩
    have hnew : m'.fetch s.table id = some (s.rewritten f ids old) := by
      change (m'.rows s.schema.table).get? id = _
      rw [h.get?, hget, Option.map_some]
    refine ⟨_, hnew, Source.id_rewritten ids old, fun column => ?_⟩
    unfold Source.rewritten
    by_cases hchosen : chosen old = true
    · simp only [if_pos ((hids old hmem).mpr hchosen), Source.get?_replaced hnodup hf, hchosen,
        true_and]
    · rw [if_neg fun hid => hchosen ((hids old hmem).mp hid), if_neg fun hall => hchosen hall.1]
  · change (m'.rows s.schema.table).get? id = none
    have hget : (m.rows s.schema.table).get? id = none := hnone
    rw [h.get?, hget, Option.map_none]
  · rw [h.rows, if_neg hother]

theorem sweepPage_error {e : FilterError} (h : Query.compile s.schema r = .error e) (t : Turn)
    (offset : Int64) (before : Session Memory) :
    sweepPage s r phrase t offset before = (.error (.filter e), before) := by
  have hsearch : search s (t.request r offset) t.batch before.store =
      (.error (.filter e), before.store) := by
    have ht : Query.compile s.schema (t.request r offset) = .error e := h
    unfold search
    rw [ht]
    rfl
  exact Access.bind_error (Session.onStore_apply hsearch)

/-- Where the store selects every row, replacing page by page is one pass over the rows that were
found at first. A table of `2 ^ 63` rows, whose last ones no offset could name, is ruled out. -/
theorem sweep_eq_pass {before : Session Memory} (hschema : s.schema.error? = none)
    (hm : before.store.Built) (hsize : before.store.count s.schema.table < 2 ^ 63)
    (hphrase : r.phrase = some phrase) (hpattern : phrase.pattern.isEmpty = false)
    (hreplacement : phrase.replacement.isSome = true)
    (hfilters : ∀ c ∈ r.filters, c.isKnown s.schema = true → c.logic = .regex)
    (turns : Nat → Turn) :
    (∀ e, Query.compile s.schema r = .error e → ∀ t offset,
        sweepPage s r phrase t offset before = (.error (.filter e), before)) ∧
      ∀ q, Query.compile s.schema r = .ok q →
        ∃ f pages after original, phrase.compile = .ok f ∧
          Sweep s r phrase turns 0 before pages after ∧
          (∀ others last, Sweep s r phrase turns 0 before others last →
            others = pages ∧ last = after) ∧
          Chain before.store s r turns 0 original ∧
          pages.flatMap ids = original.flatMap ids ∧
          pages.flatMap ids =
            ((before.store.rows s.schema.table).values.filter (r.accepts s.schema)).map (·.id) ∧
          (pages.flatMap ids).Pairwise (· < ·) ∧
          Pass s f (r.accepts s.schema) before.store after.store := by
  refine ⟨fun e he t offset => sweepPage_error he t offset before, fun q hq => ?_⟩
  obtain ⟨f, hcompile⟩ := Query.exists_compile hq hphrase hpattern
  obtain ⟨_, hf⟩ := Phrase.exists_replacement hcompile hreplacement
  have hsome : f.replacement.isSome = true := by rw [hf]; rfl
  obtain ⟨pages, after, hsweep, hids, hrewrote⟩ :=
    exists_sweep hq hcompile hsome hfilters hm.filed hsize turns Int64.le_rfl
  obtain ⟨original, horiginal, -, hsame⟩ :=
    exists_chain hq hsize turns (Int64.le_rfl : (0 : Int64) ≤ 0)
  have hall := candidates_eq_values (s := s) hfilters before.store
  refine ⟨f, pages, after, original, hcompile, hsweep, fun others last ho => hsweep.unique ho,
    horiginal, hids.trans hsame.symm, ?_, hids ▸ idsFrom_pairwise hm.filed _, ?_⟩
  · rw [hids, ← hall]
    rfl
  · refine .of_rewrote (Schema.nodup_columnIds hschema) hsome hrewrote fun row hrow => ?_
    exact mem_idsFrom_iff hm.filed (by rwa [hall])

section Sample

/-- A replacement of the letter that the titles of two rows end with. -/
def samplePhrase : Phrase := { pattern := "b", replacement := some "c" }

/-- The search for it in rows whose title ends with it. The other filter is on no known column. -/
def sampleChange : Request where
  phrase := some samplePhrase
  filters := [⟨"title", .regex, [.text "b$"]⟩, ⟨"state", .equals, []⟩]

/-- By pages of one hit each, both rows are rewritten. -/
theorem sweep_sample :
    let before : Session Memory := { store := sampleMemory }
    sampleSource.schema.error? = none ∧ before.store.Built ∧
      before.store.count sampleSource.schema.table < 2 ^ 63 ∧
      sampleChange.phrase = some samplePhrase ∧ samplePhrase.pattern.isEmpty = false ∧
      samplePhrase.replacement.isSome = true ∧
      (∀ c ∈ sampleChange.filters, c.isKnown sampleSource.schema = true → c.logic = .regex) ∧
      ∃ pages after,
        Sweep sampleSource sampleChange samplePhrase (fun _ => ⟨some 1, 1⟩) 0 before pages after ∧
        pages.flatMap ids = [2, 3] ∧
        ∃ row, after.store.fetch sampleSource.table 3 = some row ∧
          row.cells.get? "title" = some (.text "ac") := by
  intro before
  have hschema : sampleSource.schema.error? = none := by decide
  have hm : before.store.Built := Page.sampleMemory_built
  have hsize : before.store.count sampleSource.schema.table < 2 ^ 63 := by decide
  have hphrase : sampleChange.phrase = some samplePhrase := rfl
  have hfilters : ∀ c ∈ sampleChange.filters,
      c.isKnown sampleSource.schema = true → c.logic = .regex := by decide
  have hturns :=
    sweep_eq_pass hschema hm hsize hphrase rfl rfl hfilters fun _ => ⟨some 1, 1⟩
  obtain ⟨f, pages, after, -, hf, hsweep, -, -, -, hids, -, hpass⟩ := hturns.2 _ rfl
  obtain rfl : f = ⟨.literal {} "b", some (.verbatim "c")⟩ := by
    cases hf
    rfl
  obtain ⟨row, hrow, -, hcells⟩ := hpass.row 3 _ rfl
  refine ⟨hschema, hm, hsize, hphrase, rfl, rfl, hfilters, pages, after, hsweep, ?_, row, hrow,
    ?_⟩
  · rw [hids]
    rfl
  · rw [hcells]
    rfl

end Sample

end Page

end TableSearch
