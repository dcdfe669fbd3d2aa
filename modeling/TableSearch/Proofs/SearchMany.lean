import TableSearch.Proofs.ConfiguredRegistry
import TableSearch.Proofs.PageSpec
import TableSearch.Proofs.Reading

/-!
# Searching several sources

Names are checked before any source is searched, and then the sources are taken in the order of
their registration, so that of the names only the set matters. Main statement: the first name that
no source has is the answer, whatever else would fail; otherwise the answer is a page of each
selected source, or the first error (`searchMany_answers`).
-/
namespace TableSearch

namespace Engine

def Knows (e : Engine) (name : String) : Prop := name ∈ e.registry.sources.map (·.name)

instance (e : Engine) (name : String) : Decidable (e.Knows name) :=
  inferInstanceAs (Decidable (name ∈ _))

/-- The sources that names select, in the order of their registration; no names select all. -/
def chosen (e : Engine) (names : List String) : List Source :=
  e.registry.sources.filter fun s => decide (names = [] ∨ s.name ∈ names)

section Names

variable {e : Engine} {names : List String}

theorem source_of_mem {s : Source} (h : s ∈ e.registry.sources) : e.source s.name = .ok s := by
  rw [source, Registry.get?_eq_some_iff.mpr ⟨h, rfl⟩]

theorem map_name_chosen (e : Engine) (names : List String) :
    (e.chosen names).map (·.name) = e.selected names := by
  rw [chosen, selected, List.filter_map]
  congr 1
  apply List.filter_congr
  intro s _
  cases names <;> simp

theorem unknown?_eq_none_iff : e.unknown? names = none ↔ ∀ name ∈ names, e.Knows name := by
  rw [unknown?, List.find?_eq_none]
  refine forall₂_congr fun name _ => ?_
  rw [Option.isNone_iff_eq_none, ← Option.not_isSome_iff_eq_none, not_not, Registry.isSome_get?_iff]
  rfl

theorem unknown?_eq_some {before after : List String} {name : String}
    (hbefore : ∀ n ∈ before, e.Knows n) (hname : ¬e.Knows name) :
    e.unknown? (before ++ name :: after) = some name := by
  have hnone : e.unknown? before = none := unknown?_eq_none_iff.mpr hbefore
  have hfound : (e.registry.get? name).isNone = true := by
    rw [Option.isNone_iff_eq_none, ← Option.not_isSome_iff_eq_none, Registry.isSome_get?_iff]
    exact hname
  rw [unknown?] at hnone ⊢
  rw [List.find?_append, hnone, Option.none_or]
  exact List.find?_cons_of_pos hfound

end Names

variable {σ : Type} [Store σ]

/-- The sources are searched one after the other, each in what the search before it left of the
store, and each gives a page. -/
inductive Searched (e : Engine) (request : Request) : List Source → σ → List Page → σ → Prop
  | nil (c : σ) : Searched e request [] c [] c
  | cons {s : Source} {ss : List Source} {c c' c'' : σ} {page : Page} {pages : List Page}
    (hpage : e.searchOne s.name request c = (.ok page, c'))
    (hpages : Searched e request ss c' pages c'') :
    Searched e request (s :: ss) c (page :: pages) c''

/-- What searching sources one after the other answers: a page of each, or the first error. -/
inductive Answers (e : Engine) (request : Request) (ss : List Source) (c : σ) :
    Except EngineError (List Page) → σ → Prop
  | pages {pages : List Page} {c' : σ} (h : e.Searched request ss c pages c') :
    Answers e request ss c (.ok pages) c'
  | error {done rest : List Source} {s : Source} {pages : List Page} {c' c'' : σ}
    {error : EngineError} (hss : ss = done ++ s :: rest)
    (hdone : e.Searched request done c pages c')
    (herror : e.searchOne s.name request c' = (.error error, c'')) :
    Answers e request ss c (.error error) c''

section Answers

variable {e : Engine} {request : Request} {ss done : List Source} {c c' : σ}

theorem searchEach_of_error {name : String} {error : EngineError} (names : List String)
    (h : e.searchOne name request c = (.error error, c')) :
    e.searchEach request (name :: names) c = (.error error, c') := by
  rw [searchEach, Access.bind_error h]

theorem searchEach_of_page {name : String} {page : Page} (names : List String)
    (h : e.searchOne name request c = (.ok page, c')) :
    e.searchEach request (name :: names) c =
      ((e.searchEach request names c').1.map (page :: ·), (e.searchEach request names c').2) := by
  rw [searchEach, Access.bind_ok h]
  rcases hrest : e.searchEach request names c' with ⟨error | pages, c''⟩
  · exact Access.bind_error hrest
  · exact Access.bind_ok hrest

theorem Searched.searchEach_append {pages : List Page} (h : e.Searched request done c pages c')
    (names : List String) :
    e.searchEach request (done.map (·.name) ++ names) c =
      ((e.searchEach request names c').1.map (pages ++ ·), (e.searchEach request names c').2) := by
  induction h with
  | nil c =>
    change _ = (Except.map id _, _)
    rw [Except.map_id]
    rfl
  | @cons s ss c c' c'' page pages hpage _ ih =>
    rw [List.map_cons, List.cons_append, searchEach_of_page _ hpage, ih]
    cases (e.searchEach request names c'').1 <;> rfl

theorem Answers.searchEach_eq {r : Except EngineError (List Page)}
    (h : e.Answers request ss c r c') : e.searchEach request (ss.map (·.name)) c = (r, c') := by
  cases h with
  | pages hdone =>
    rename_i pages
    have hall := hdone.searchEach_append []
    rw [List.append_nil] at hall
    rw [hall]
    change (Except.ok (pages ++ []), c') = _
    rw [List.append_nil]
  | error hss hdone herror =>
    rw [hss, List.map_append, hdone.searchEach_append, List.map_cons,
      searchEach_of_error _ herror]
    rfl

theorem answers_of_searchEach {r : Except EngineError (List Page)}
    (h : e.searchEach request (ss.map (·.name)) c = (r, c')) : e.Answers request ss c r c' := by
  induction ss generalizing c r c' with
  | nil =>
    cases h
    exact .pages (.nil c)
  | cons s ss ih =>
    rcases hs : e.searchOne s.name request c with ⟨error | page, between⟩
    · rw [List.map_cons, searchEach_of_error _ hs] at h
      cases h
      exact .error (List.nil_append _).symm (.nil c) hs
    · rcases hrest : e.searchEach request (ss.map (·.name)) between with ⟨answer, after⟩
      rw [List.map_cons, searchEach_of_page _ hs, hrest] at h
      cases h
      cases ih hrest with
      | pages hpages => exact .pages (.cons hs hpages)
      | error hss hdone herror =>
        exact .error (congrArg (s :: ·) hss) (.cons hs hdone) herror

theorem searchEach_eq_iff {r : Except EngineError (List Page)} :
    e.searchEach request (ss.map (·.name)) c = (r, c') ↔ e.Answers request ss c r c' :=
  ⟨answers_of_searchEach, Answers.searchEach_eq⟩

/-- Where searching leaves the store as it is, each source answers for itself. -/
theorem searchEach_of_reads
    (h : ∀ s ∈ ss, Access.Reads (e.searchOne s.name request : Access σ EngineError Page)) (c : σ) :
    e.searchEach request (ss.map (·.name)) c =
      (ss.mapM fun s => (e.searchOne s.name request c).1, c) := by
  induction ss with
  | nil => rfl
  | cons s ss ih =>
    obtain ⟨hfirst, hrest⟩ := List.forall_mem_cons.mp h
    rcases hs : e.searchOne s.name request c with ⟨answer, after⟩
    obtain rfl : after = c := by
      have hafter := hfirst c
      rwa [hs] at hafter
    rw [List.map_cons, List.mapM_cons, hs]
    cases answer with
    | error error => rw [searchEach_of_error _ hs]; rfl
    | ok page =>
      rw [searchEach_of_page _ hs, ih hrest]
      cases ss.mapM fun s => (e.searchOne s.name request after).1 <;> rfl

end Answers

theorem searchMany_of_known {e : Engine} {names : List String}
    (h : ∀ name ∈ names, e.Knows name) (request : Request) :
    (e.searchMany names request : Access σ EngineError (List Page)) =
      e.searchEach request ((e.chosen names).map (·.name)) := by
  rw [searchMany, unknown?_eq_none_iff.mpr h, map_name_chosen]

/-- Lists of the same names select the same sources, unless one of them is empty. -/
theorem chosen_congr {e : Engine} {names others : List String} (hnames : names ≠ [])
    (hothers : others ≠ []) (h : ∀ name, name ∈ others ↔ name ∈ names) :
    e.chosen others = e.chosen names := by
  apply List.filter_congr
  intro s _
  simp only [hnames, hothers, false_or, h]

/-- The first name that no source has is the answer, whatever else would fail, and the store is not
touched. If all names are known, the selected sources answer in the order of their registration:
each is found by its name, and the answer is a page of each or the first error. Where searching
leaves the store as it is, these are the answers that the single searches give. Of the names, if
there are any, only the set matters. -/
theorem searchMany_answers (e : Engine) (names : List String) (request : Request) (c : σ) :
    (∀ before name after, names = before ++ name :: after → (∀ n ∈ before, e.Knows n) →
      ¬e.Knows name → e.searchMany names request c = (.error (.unknownSource name), c)) ∧
    ((∀ name ∈ names, e.Knows name) →
      (∀ s ∈ e.chosen names, e.source s.name = .ok s) ∧
      (∀ r c', e.searchMany names request c = (r, c') ↔
        e.Answers request (e.chosen names) c r c') ∧
      ((∀ name, Access.Reads (e.searchOne name request : Access σ EngineError Page)) →
        e.searchMany names request c =
          ((e.chosen names).mapM fun s => (e.searchOne s.name request c).1, c)) ∧
      ∀ others, names ≠ [] → others ≠ [] → (∀ name, name ∈ others ↔ name ∈ names) →
        e.searchMany others request c = e.searchMany names request c) := by
  refine ⟨?_, ?_⟩
  · rintro before name after rfl hbefore hname
    rw [searchMany, unknown?_eq_some hbefore hname]
    rfl
  · intro hknown
    rw [searchMany_of_known hknown]
    refine ⟨?_, fun r c' => searchEach_eq_iff, ?_, ?_⟩
    · intro s hs
      exact source_of_mem (List.mem_filter.mp hs).1
    · intro hreads
      exact searchEach_of_reads (fun s _ => hreads s.name) c
    · intro others hnames hothers hsame
      have hothersKnown : ∀ name ∈ others, e.Knows name := fun name hname =>
        hknown name ((hsame name).mp hname)
      rw [searchMany_of_known hothersKnown, chosen_congr hnames hothers hsame]

section Sample

/-- The engine of the posts and their drafts, which are another table of the same columns. -/
def drafting : Engine where
  registry := ⟨[Page.sampleSource,
    { Page.sampleSource with name := "drafts", schema.table := "drafts" }], by decide⟩
  gate := .denied

/-- The first of two unknown names is told, and names in another order and more than once give the
same pages, the posts first. -/
theorem searchMany_answers_sample :
    drafting.searchMany ["drafts", "pages", "users"] {} Page.sampleMemory =
      (.error (.unknownSource "pages"), Page.sampleMemory) ∧
    drafting.searchMany ["drafts", "posts", "drafts"] {} Page.sampleMemory =
      drafting.searchMany ["posts", "drafts"] {} Page.sampleMemory ∧
    (drafting.searchMany ["posts", "drafts"] {} Page.sampleMemory).1.map
      (·.map fun page => (page.source, page.scanned)) = .ok [("posts", 3), ("drafts", 0)] := by
  have hunknown := (searchMany_answers drafting ["drafts", "pages", "users"] {}
    Page.sampleMemory).1 ["drafts"] "pages" ["users"] rfl (by decide) (by decide)
  obtain ⟨-, -, hpages, hsame⟩ := (searchMany_answers drafting ["posts", "drafts"] {}
    Page.sampleMemory).2 (by decide)
  refine ⟨hunknown, hsame ["drafts", "posts", "drafts"] nofun nofun ?_, ?_⟩
  · intro name
    simp only [List.mem_cons, List.not_mem_nil, or_false]
    tauto
  · rw [hpages fun name => searchOne_reads drafting name {}]
    rfl

end Sample

end Engine

end TableSearch
