import TableSearch.Proofs.Access
import TableSearch.Proofs.Config
import TableSearch.Proofs.ValueOrder
import TableSearch.Source.Labels
import TableSearch.Store.Memory

/-!
# What the value of a preloaded key identifies

The value of a preloaded key is the column, an underscore and what is displayed of the key. An
underscore may stand in the column and in the key as well, so one value may be split in two places.
Main statement: two preloaded keys have one value exactly if column and key are the same or one
column overlaps the key of the other (`preloaded_value_eq_iff`). The decimal form of an integer has
no underscore, so integers are told apart.
-/
namespace TableSearch

/-- Two lists with a mark in them are equal if they are split alike, or if one is split at a later
mark than the other. -/
theorem append_cons_eq_append_cons_iff {α : Type} {mark : α} {c d k l : List α} :
    c ++ mark :: k = d ++ mark :: l ↔
      c = d ∧ k = l ∨ (∃ m, d = c ++ mark :: m ∧ k = m ++ mark :: l) ∨
        ∃ m, c = d ++ mark :: m ∧ l = m ++ mark :: k := by
  constructor
  · intro h
    rcases List.append_eq_append_iff.mp h with ⟨m, hd, hk⟩ | ⟨m, hc, hl⟩
    · cases m with
      | nil => exact .inl (by simp_all)
      | cons a m =>
        obtain ⟨rfl, hrest⟩ := List.cons.inj hk
        exact .inr (.inl ⟨m, hd, hrest⟩)
    · cases m with
      | nil => exact .inl (by simp_all)
      | cons a m =>
        obtain ⟨rfl, hrest⟩ := List.cons.inj hl
        exact .inr (.inr ⟨m, hc, hrest⟩)
  · rintro (⟨rfl, rfl⟩ | ⟨m, rfl, rfl⟩ | ⟨m, rfl, rfl⟩) <;> simp

namespace PreloadItem

/-- The column `d` begins with the column `c` and an underscore, the key `k` ends with an underscore
and the key `l`, and one text is left of `d` and of `k`. -/
def Overlaps (c : String) (k : Value) (d : String) (l : Value) : Prop :=
  ∃ between, d = c ++ "_" ++ between ∧ k.display = between ++ "_" ++ l.display

theorem toList_value (label column : String) (key : Value) :
    (PreloadItem.of label column key).value.toList =
      column.toList ++ '_' :: key.display.toList := by
  simp [PreloadItem.of]

theorem overlaps_iff {c d : String} {k l : Value} : Overlaps c k d l ↔
    ∃ m, d.toList = c.toList ++ '_' :: m ∧ k.display.toList = m ++ '_' :: l.display.toList := by
  constructor
  · rintro ⟨between, hd, hk⟩
    exact ⟨between.toList, by simp [hd], by simp [hk]⟩
  · rintro ⟨m, hd, hk⟩
    refine ⟨String.ofList m, ?_, ?_⟩
    · simp [← String.toList_inj, hd]
    · simp [← String.toList_inj, hk]

theorem value_eq_iff (label label' c d : String) (k l : Value) :
    (PreloadItem.of label c k).value = (PreloadItem.of label' d l).value ↔
      c = d ∧ k.display = l.display ∨ Overlaps c k d l ∨ Overlaps d l c k := by
  rw [← String.toList_inj, toList_value, toList_value, append_cons_eq_append_cons_iff,
    String.toList_inj, String.toList_inj, overlaps_iff, overlaps_iff]

theorem underscore_notMem_integer (n : Int64) : '_' ∉ (Value.integer n).display.toList := by
  intro h
  rw [Value.display, Text.writeInt64, Text.writeInteger, String.toList_ofList] at h
  cases hn : n.toInt with
  | ofNat m =>
    rw [hn] at h
    exact absurd (List.all_eq_true.mp (Text.all_isDigit_toDigits m) _ h) (by decide)
  | negSucc m =>
    rw [hn] at h
    rcases List.mem_cons.mp h with hminus | h
    · cases hminus
    · exact absurd (List.all_eq_true.mp (Text.all_isDigit_toDigits _) _ h) (by decide)

theorem not_overlaps {c d : String} {k l : Value} (h : '_' ∉ k.display.toList) :
    ¬Overlaps c k d l := by
  rw [overlaps_iff]
  rintro ⟨m, -, hk⟩
  exact h (by simp [hk])

end PreloadItem

section Preloading

variable {σ : Type} [Store σ]

theorem ForeignKey.mem_preload {labels : ForeignKey} {column : String} {keys : List Value}
    {st st' : σ} {items : List PreloadItem}
    (h : labels.preload column keys st = (.ok items, st')) {i : PreloadItem} (hi : i ∈ items) :
    ∃ label, ∃ key ∈ keys, i = .of label column key := by
  induction keys generalizing st st' items with
  | nil =>
    cases h
    cases hi
  | cons key keys ih =>
    rw [ForeignKey.preload] at h
    rcases hlookup : (Store.lookup labels key : Access σ _ _) st with ⟨e | label, t⟩
    · rw [Access.bind_error hlookup] at h
      cases h
    · rw [Access.bind_ok hlookup] at h
      rcases hrest : labels.preload column keys t with ⟨e | rest, u⟩
      · rw [Access.bind_error hrest] at h
        cases h
      · rw [Access.bind_ok hrest] at h
        have hrec (hi : i ∈ rest) : ∃ label, ∃ key' ∈ key :: keys, i = .of label column key' := by
          obtain ⟨label, key', hkey, he⟩ := ih hrest hi
          exact ⟨label, key', List.mem_cons_of_mem key hkey, he⟩
        cases label with
        | none =>
          cases h
          exact hrec hi
        | some label =>
          cases h
          rcases List.mem_cons.mp hi with rfl | hi
          · exact ⟨label, key, List.mem_cons_self, rfl⟩
          · exact hrec hi

/-- What is preloaded for a filter are items of its column and its keys. -/
theorem Source.mem_preload {s : Source} {f : Filter} {st st' : σ} {items : List PreloadItem}
    (h : s.preload f st = (.ok items, st')) {i : PreloadItem} (hi : i ∈ items) :
    ∃ label, ∃ key ∈ f.values, i = .of label f.column key := by
  unfold Source.preload at h
  cases hc : s.schema.column? f.column with
  | none =>
    rw [hc] at h
    cases h
    cases hi
  | some c =>
    rw [hc] at h
    dsimp only at h
    rw [Schema.id_of_column? hc] at h
    split at h
    · cases hrule : s.preloadRule c with
      | nothing =>
        rw [hrule] at h
        cases h
        cases hi
      | options =>
        rw [hrule] at h
        cases h
        obtain ⟨key, hkey, rfl⟩ := List.mem_map.mp hi
        exact ⟨_, key, hkey, rfl⟩
      | lookup labels =>
        rw [hrule] at h
        dsimp only at h
        rcases hp : labels.preload f.column f.values st with ⟨e | found, t⟩
        · rw [Access.mapError_apply, hp] at h
          cases h
        · rw [Access.mapError_ok hp] at h
          cases h
          exact ForeignKey.mem_preload hp hi
    · cases h
      cases hi

end Preloading

/-- Items that are preloaded for two filters, in whatever sources and stores: each is that of a key
of its filter, and they have one value exactly if column and displayed key are the same or one
column overlaps the key of the other. Keys that are integers are told apart, and so are the columns
that they are keys of. -/
theorem preloaded_value_eq_iff {σ τ : Type} [Store σ] [Store τ] {s t : Source} {f g : Filter}
    {a a' : σ} {b b' : τ} {items items' : List PreloadItem}
    (hf : s.preload f a = (.ok items, a')) (hg : t.preload g b = (.ok items', b'))
    {i j : PreloadItem} (hi : i ∈ items) (hj : j ∈ items') :
    ∃ k ∈ f.values, ∃ l ∈ g.values,
      (∃ label, i = .of label f.column k) ∧ (∃ label, j = .of label g.column l) ∧
      (i.value = j.value ↔ f.column = g.column ∧ k.display = l.display ∨
        PreloadItem.Overlaps f.column k g.column l ∨
        PreloadItem.Overlaps g.column l f.column k) ∧
      ∀ m n, k = .integer m → l = .integer n →
        (i.value = j.value ↔ f.column = g.column ∧ m = n) := by
  obtain ⟨label, k, hk, rfl⟩ := Source.mem_preload hf hi
  obtain ⟨label', l, hl, rfl⟩ := Source.mem_preload hg hj
  have hvalue := PreloadItem.value_eq_iff label label' f.column g.column k l
  refine ⟨k, hk, l, hl, ⟨label, rfl⟩, ⟨label', rfl⟩, hvalue, ?_⟩
  rintro m n rfl rfl
  have hkeys := Value.looseEq_iff (Value.integer_ne_null m) (Value.integer_ne_null n)
  rw [Value.looseEq, beq_iff_eq] at hkeys
  simp only [hvalue, PreloadItem.not_overlaps (PreloadItem.underscore_notMem_integer _),
    or_false, hkeys]

section Tags

def tagColumn (id : String) : TableColumn where
  column := { id, type := .member, title := "Tag" }
  lookup := some ⟨"tags", "slug", "name"⟩

/-- A table with two columns of tags, one of which begins with the other and an underscore. -/
def taggedTable : TableSetup where
  label := "Posts"
  table := "posts"
  titleColumn := "tag"
  columns := [tagColumn "tag", tagColumn "tag_a"]

def tagConfig : Config where
  path := "search.toml"
  tables := .ofList [("posts", taggedTable)]

def tagRow (id : Int64) (slug name : String) : Row :=
  ⟨id, .ofList [("slug", .text slug), ("name", .text name)]⟩

def tagStore : Memory :=
  [tagRow 1 "a_1" "First", tagRow 2 "1" "Second"].foldl (fun m row => m.insert ⟨"tags", "id"⟩ row) {}

/-- A key that is an integer has different values in the two columns. -/
theorem preloaded_value_eq_iff_sample :
    ∃ i j, (taggedTable.source "posts").preload ⟨"tag", .includes, [.integer 1]⟩ tagStore =
        (.ok [i], tagStore) ∧
      (taggedTable.source "posts").preload ⟨"tag_a", .includes, [.integer 1]⟩ tagStore =
        (.ok [j], tagStore) ∧ i.value ≠ j.value := by
  have hf : (taggedTable.source "posts").preload ⟨"tag", .includes, [.integer 1]⟩ tagStore =
      (.ok [⟨"Second", "tag_1"⟩], tagStore) := by rfl
  have hg : (taggedTable.source "posts").preload ⟨"tag_a", .includes, [.integer 1]⟩ tagStore =
      (.ok [⟨"Second", "tag_a_1"⟩], tagStore) := by rfl
  obtain ⟨k, hk, l, hl, -, -, -, hinteger⟩ :=
    preloaded_value_eq_iff hf hg List.mem_cons_self List.mem_cons_self
  refine ⟨_, _, hf, hg, fun h => ?_⟩
  have hcolumns := ((hinteger 1 1 (List.mem_singleton.mp hk) (List.mem_singleton.mp hl)).mp h).1
  exact absurd hcolumns (by decide)

/-- The first tag in the one column and the second tag in the other have one value. -/
theorem preload_confuses_columns :
    tagConfig.error? = none ∧ ("posts", taggedTable) ∈ tagConfig.tables.toList ∧
      ∃ i j, (taggedTable.source "posts").preload ⟨"tag", .includes, [.text "a_1"]⟩ tagStore =
          (.ok [i], tagStore) ∧
        (taggedTable.source "posts").preload ⟨"tag_a", .includes, [.text "1"]⟩ tagStore =
          (.ok [j], tagStore) ∧
        i.value = j.value ∧ "tag" ≠ "tag_a" ∧
          (Value.text "a_1").display ≠ (Value.text "1").display := by
  have hfirst : (taggedTable.source "posts").preload ⟨"tag", .includes, [.text "a_1"]⟩ tagStore =
      (.ok [⟨"First", "tag_a_1"⟩], tagStore) := by rfl
  have hsecond : (taggedTable.source "posts").preload ⟨"tag_a", .includes, [.text "1"]⟩ tagStore =
      (.ok [⟨"Second", "tag_a_1"⟩], tagStore) := by rfl
  exact ⟨by decide, by decide, _, _, hfirst, hsecond, rfl, by decide, by decide⟩

end Tags

end TableSearch
