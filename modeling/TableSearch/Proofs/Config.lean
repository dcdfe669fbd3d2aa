import Mathlib.Data.List.Nodup
import TableSearch.Config

/-!
# What a valid configuration promises of its sources

Its sources are sound: they have columns, no two of one identifier, options for every column of
members, and a title among the columns. So the column that an identifier finds is the one it belongs
to. Those that the plugin brings are sound under every prefix.
-/
namespace TableSearch

theorem find?_eq_some_of_iff {α : Type} {p : α → Bool} {l : List α} {a : α} (ha : a ∈ l)
    (h : ∀ b ∈ l, p b = true ↔ b = a) : l.find? p = some a := by
  cases hfound : l.find? p with
  | none => exact absurd ((h a ha).mpr rfl) (List.find?_eq_none.mp hfound a ha)
  | some b => rw [(h b (List.mem_of_find?_eq_some hfound)).mp (List.find?_some hfound)]

/-- Where no key occurs twice, a key finds exactly the element that has it. -/
theorem find?_key_eq_some_iff {α : Type} {key : α → String} {l : List α} (h : (l.map key).Nodup)
    {k : String} {a : α} : l.find? (fun b => key b == k) = some a ↔ a ∈ l ∧ key a = k := by
  constructor
  · intro hfound
    exact ⟨List.mem_of_find?_eq_some hfound, by simpa using List.find?_some hfound⟩
  · rintro ⟨ha, rfl⟩
    refine find?_eq_some_of_iff ha fun b hb => ?_
    rw [beq_iff_eq]
    constructor
    · exact List.inj_on_of_nodup_map h hb ha
    · rintro rfl
      rfl

namespace Schema

/-- A schema with columns, no two of one identifier, and with options for every column of members. -/
structure Sound (schema : Schema) : Prop where
  columns_ne_nil : schema.columns ≠ []
  nodup_columnIds : schema.columnIds.Nodup
  isSome_options : ∀ c ∈ schema.columns, c.type = .member → c.options.isSome = true

theorem columnError?_eq_none_iff {seen : List String} {columns : List Column} :
    columnError? seen columns = none ↔
      (columns.map (·.id)).Nodup ∧ (∀ c ∈ columns, c.id ∉ seen) ∧
        ∀ c ∈ columns, c.type = .member → c.options.isSome = true := by
  induction columns generalizing seen with
  | nil => simp [columnError?]
  | cons c rest ih =>
    rw [List.map_cons, List.nodup_cons, List.forall_mem_cons, List.forall_mem_cons]
    by_cases hseen : c.id ∈ seen
    · simp [columnError?, hseen]
    · by_cases hoptions : c.type = .member → c.options.isSome = true
      · have hnext : columnError? seen (c :: rest) = columnError? (c.id :: seen) rest := by
          rw [columnError?, if_neg (by simpa using hseen)]
          exact if_neg (by simpa [Option.isSome_iff_ne_none] using hoptions)
        have hfresh : (∀ d ∈ rest, d.id ∉ c.id :: seen) ↔
            c.id ∉ rest.map (·.id) ∧ ∀ d ∈ rest, d.id ∉ seen := by
          simp [not_or, forall_and]
        rw [hnext, ih, hfresh]
        constructor
        · rintro ⟨hnodup, ⟨hc, hrest⟩, hmembers⟩
          exact ⟨⟨hc, hnodup⟩, ⟨hseen, hrest⟩, hoptions, hmembers⟩
        · rintro ⟨⟨hc, hnodup⟩, ⟨-, hrest⟩, -, hmembers⟩
          exact ⟨hnodup, ⟨hc, hrest⟩, hmembers⟩
      · have hstops : columnError? seen (c :: rest) = some (.memberWithoutOptions c.id) := by
          rw [columnError?, if_neg (by simpa using hseen)]
          exact if_pos (by simpa using hoptions)
        simp [hstops, hoptions]

/-- Nothing is wrong with exactly the sound schemas. -/
theorem error?_eq_none_iff {schema : Schema} : schema.error? = none ↔ schema.Sound := by
  unfold error?
  split
  · rename_i hempty
    refine ⟨fun h => (by cases h), fun h => ?_⟩
    exact absurd (List.isEmpty_iff.mp hempty) h.columns_ne_nil
  · rename_i hempty
    rw [columnError?_eq_none_iff]
    constructor
    · rintro ⟨hnodup, -, hoptions⟩
      exact ⟨fun h => hempty (List.isEmpty_iff.mpr h), hnodup, hoptions⟩
    · rintro ⟨-, hnodup, hoptions⟩
      exact ⟨hnodup, fun c _ => List.not_mem_nil, hoptions⟩

theorem nodup_columnIds {schema : Schema} (h : schema.error? = none) : schema.columnIds.Nodup :=
  (error?_eq_none_iff.mp h).nodup_columnIds

theorem id_of_column? {schema : Schema} {id : String} {c : Column}
    (h : schema.column? id = some c) : c.id = id := by
  simpa using List.find?_some h

theorem column?_eq_some {schema : Schema} (h : schema.columnIds.Nodup) {c : Column}
    (hc : c ∈ schema.columns) : schema.column? c.id = some c :=
  (find?_key_eq_some_iff h).mpr ⟨hc, rfl⟩

end Schema

/-- A source with a sound schema and a title among its columns. -/
structure Source.Sound (s : Source) : Prop where
  schema : s.schema.Sound
  titleColumn : s.titleColumn ∈ s.schema.columnIds

namespace Redirection

theorem sound_items (tablePrefix : String) : (items tablePrefix).Sound where
  schema := Schema.error?_eq_none_iff.mp (by rfl)
  titleColumn := by simp [items, itemsColumns, Schema.columnIds]

theorem sound_groups (tablePrefix : String) (modules : Option Modules) :
    (groups tablePrefix modules).Sound where
  schema := Schema.error?_eq_none_iff.mp (by rfl)
  titleColumn := by simp [groups, groupsColumns, Schema.columnIds]

end Redirection

namespace TableSetup

theorem id_toColumn (c : TableColumn) : c.toColumn.id = c.column.id := by
  unfold TableColumn.toColumn
  split <;> rfl

theorem lookup?_eq_none {t : TableSetup} (h : t.schema.columnIds.Nodup) {c : TableColumn}
    (hc : c ∈ t.columns) (hlookup : c.lookup = none) : t.lookup? c.column.id = none := by
  rw [Schema.columnIds, schema, List.map_map] at h
  refine List.findSome?_eq_none_iff.mpr fun d hd => ?_
  obtain ⟨hd, hid⟩ := List.mem_filter.mp hd
  rw [List.mem_reverse] at hd
  have hsame : d = c := by
    refine List.inj_on_of_nodup_map h hd hc ?_
    rw [Function.comp_apply, Function.comp_apply, id_toColumn, id_toColumn]
    exact beq_iff_eq.mp hid
  rw [hsame, hlookup]

end TableSetup

namespace Config

theorem tableError?_eq_none_iff {name : String} {t : TableSetup} :
    tableError? name t = none ↔
      (name ≠ Redirection.itemsName ∧ name ≠ Redirection.groupsName) ∧
        t.schema.error? = none ∧ t.titleColumn ∈ t.schema.columnIds := by
  have htitle : t.columns.any (·.column.id == t.titleColumn) = true ↔
      t.titleColumn ∈ t.schema.columnIds := by
    simp [Schema.columnIds, TableSetup.schema, TableSetup.id_toColumn]
  unfold tableError?
  rw [← not_or, ← htitle]
  split
  · rename_i hreserved
    simp [hreserved]
  · rename_i hfree
    cases herror : t.schema.error? with
    | some e => simp
    | none => simp [hfree]

theorem tableError?_eq_none {c : Config} (h : c.error? = none) {name : String} {t : TableSetup}
    (ht : (name, t) ∈ c.tables.toList) : tableError? name t = none := by
  unfold error? at h
  split at h
  · cases h
  · split at h
    · cases h
    · split at h
      · cases h
      · exact List.findSome?_eq_none_iff.mp h (name, t) ht

theorem schema_error?_eq_none {c : Config} (h : c.error? = none) {name : String} {t : TableSetup}
    (ht : (name, t) ∈ c.tables.toList) : t.schema.error? = none :=
  (tableError?_eq_none_iff.mp (tableError?_eq_none h ht)).2.1

/-- The sources of a valid configuration are sound. -/
theorem sound_of_mem_sources {c : Config} (h : c.error? = none) {s : Source}
    (hs : s ∈ c.sources) : s.Sound := by
  rcases List.mem_append.mp hs with hs | hs
  · cases hr : c.redirection with
    | none =>
      rw [hr] at hs
      cases hs
    | some setup =>
      rw [hr] at hs
      rcases List.mem_cons.mp hs with rfl | hs
      · exact Redirection.sound_items c.tablePrefix
      · rw [List.mem_singleton.mp hs]
        exact Redirection.sound_groups c.tablePrefix setup.modules
  · obtain ⟨⟨name, t⟩, ht, rfl⟩ := List.mem_map.mp hs
    obtain ⟨-, hschema, htitle⟩ := tableError?_eq_none_iff.mp (tableError?_eq_none h ht)
    exact ⟨Schema.error?_eq_none_iff.mp hschema, htitle⟩

theorem nodup_columnIds {c : Config} (h : c.error? = none) {s : Source} (hs : s ∈ c.sources) :
    s.schema.columnIds.Nodup :=
  (sound_of_mem_sources h hs).schema.nodup_columnIds

end Config

end TableSearch
