import TableSearch.Proofs.Access
import TableSearch.Proofs.Config
import TableSearch.Proofs.Dict

/-!
# The registry of a valid configuration

Registering sources one after the other appends them, and it succeeds exactly if no name comes
twice. The names of the plugin are kept from the tables of a valid configuration, and the tables are
entries of a dictionary, so no name comes twice among the sources of a valid configuration. Main
statement: the registry is built, names find their sources, and the sources are sound
(`registry_of_valid`).
-/
namespace TableSearch

namespace Registry

@[ext] theorem ext {r r' : Registry} (h : r.sources = r'.sources) : r = r' := by
  cases r
  cases r'
  cases h
  rfl

theorem register_eq_ok_iff {r r' : Registry} {s : Source} :
    r.register s = .ok r' ↔ r'.sources = r.sources ++ [s] := by
  by_cases htaken : s.name ∈ r.sources.map (·.name)
  · rw [register, dif_pos htaken]
    constructor
    · intro h
      cases h
    · intro hsources
      have hdistinct := r'.distinct
      rw [hsources, List.map_append, List.nodup_append] at hdistinct
      exact absurd rfl (hdistinct.2.2 _ htaken _ List.mem_cons_self)
  · rw [register, dif_neg htaken, Except.ok.injEq, Registry.ext_iff, eq_comm]

/-- Registering sources one after the other gives the registry of all of them, if there is one. -/
theorem registerAll_eq_ok_iff {r r' : Registry} {ss : List Source} :
    r.registerAll ss = .ok r' ↔ r'.sources = r.sources ++ ss := by
  induction ss generalizing r with
  | nil => rw [registerAll, List.append_nil, Except.ok.injEq, Registry.ext_iff, eq_comm]
  | cons s ss ih =>
    have hsplit : r.sources ++ s :: ss = r.sources ++ [s] ++ ss := by simp
    rw [hsplit]
    constructor
    · intro h
      obtain ⟨next, hnext, hrest⟩ := exists_of_bind_eq_ok h
      rw [ih.mp hrest, register_eq_ok_iff.mp hnext]
    · intro hsources
      have hdistinct : ((r.sources ++ [s]).map (·.name)).Nodup := by
        have h := r'.distinct
        rw [hsources, List.map_append] at h
        exact h.of_append_left
      have hnext : r.register s = .ok ⟨r.sources ++ [s], hdistinct⟩ := register_eq_ok_iff.mpr rfl
      rw [registerAll, hnext]
      exact ih.mpr hsources

theorem get?_eq_some_iff {r : Registry} {name : String} {s : Source} :
    r.get? name = some s ↔ s ∈ r.sources ∧ s.name = name :=
  find?_key_eq_some_iff r.distinct

theorem isSome_get?_iff {r : Registry} {name : String} :
    (r.get? name).isSome = true ↔ name ∈ r.sources.map (·.name) := by
  rw [Option.isSome_iff_exists, List.mem_map]
  exact exists_congr fun s => get?_eq_some_iff

end Registry

namespace Config

/-- The names of the sources in order: those of the redirection plugin, if it is in use, then those
of the tables. -/
def sourceNames (c : Config) : List String :=
  (if c.redirection.isSome then [Redirection.itemsName, Redirection.groupsName] else []) ++
    c.tables.keys

theorem map_name_sources (c : Config) : c.sources.map (·.name) = c.sourceNames := by
  rw [sources, sourceNames, List.map_append]
  congr 1
  · cases c.redirection <;> rfl
  · rw [List.map_map]
    rfl

theorem ne_reserved {c : Config} (h : c.error? = none) {name : String}
    (hname : name ∈ c.tables.keys) :
    name ≠ Redirection.itemsName ∧ name ≠ Redirection.groupsName := by
  obtain ⟨⟨_, t⟩, ht, rfl⟩ := List.mem_map.mp hname
  exact (tableError?_eq_none_iff.mp (tableError?_eq_none h ht)).1

theorem nodup_sourceNames {c : Config} (h : c.error? = none) : c.sourceNames.Nodup := by
  rw [sourceNames]
  split
  · refine List.nodup_append.mpr ⟨by decide, c.tables.nodup_keys, ?_⟩
    intro reserved hreserved name hname heq
    obtain ⟨hitems, hgroups⟩ := ne_reserved h hname
    rcases List.mem_cons.mp hreserved with rfl | hreserved
    · exact hitems heq.symm
    · exact hgroups (heq.symm.trans (List.mem_singleton.mp hreserved))
  · exact c.tables.nodup_keys

end Config

/-- The registry of a valid configuration is built. It lists the sources of the redirection plugin,
if it is in use, and then the tables in the order of their names. The names are distinct, and each
finds its source and no other text does. Every source is sound. -/
theorem registry_of_valid {c : Config} (h : c.error? = none) :
    ∃ r, c.registry = .ok r ∧ r.sources = c.sources ∧
      r.sources.map (·.name) = c.sourceNames ∧ c.sourceNames.Nodup ∧
      (c.tables.keys.Pairwise fun a b => compare a b = .lt) ∧
      (∀ name s, r.get? name = some s ↔ s ∈ r.sources ∧ s.name = name) ∧
      (∀ name, (r.get? name).isSome = true ↔ name ∈ c.sourceNames) ∧
      ∀ s ∈ r.sources, s.Sound := by
  have hnames := c.map_name_sources
  have hdistinct : (c.sources.map (·.name)).Nodup := hnames ▸ Config.nodup_sourceNames h
  refine ⟨⟨c.sources, hdistinct⟩, Registry.registerAll_eq_ok_iff.mpr rfl, rfl, hnames,
    Config.nodup_sourceNames h, c.tables.pairwise_keys, ?_, ?_, ?_⟩
  · exact fun name s => Registry.get?_eq_some_iff
  · exact fun name => hnames ▸ Registry.isSome_get?_iff
  · exact fun s hs => Config.sound_of_mem_sources h hs

section Blog

/-- Posts with an author, whose column is declared without options. -/
def authoredTable : TableSetup where
  label := "Posts"
  table := "wp_posts"
  titleColumn := "title"
  columns := [
    { column := { id := "title", type := .string, title := "Title", global := true } },
    { column := { id := "author", type := .member, title := "Author" },
      lookup := some ⟨"wp_users", "id", "name"⟩ }]

def usersTable : TableSetup where
  label := "Users"
  table := "wp_users"
  titleColumn := "name"
  columns := [{ column := { id := "name", type := .string, title := "Name" } }]

/-- The redirection plugin and two tables, the later name written first. -/
def blogConfig : Config where
  path := "search.toml"
  redirection := some {}
  tables := .ofList [("users", usersTable), ("posts", authoredTable)]

/-- The sources of a blog by name; the column of authors gets options from its look-up. -/
theorem registry_of_valid_blog :
    blogConfig.error? = none ∧ ∃ r, blogConfig.registry = .ok r ∧
      r.sources.map (·.name) = ["redirection", "redirection-groups", "posts", "users"] ∧
      (authoredTable.source "posts").Sound ∧ (r.get? "pages").isSome = false := by
  have hvalid : blogConfig.error? = none := by decide
  obtain ⟨r, hr, hsources, hnames, -, -, -, hfound, hsound⟩ := registry_of_valid hvalid
  have hlisted : blogConfig.sourceNames = ["redirection", "redirection-groups", "posts", "users"] :=
    by decide
  refine ⟨hvalid, r, hr, hnames.trans hlisted, hsound _ ?_, ?_⟩
  · rw [hsources]
    exact List.mem_append_right _ (List.mem_map_of_mem (a := ("posts", authoredTable)) (by decide))
  · rw [Bool.eq_false_iff, ne_eq, hfound, hlisted]
    decide

end Blog

end TableSearch
