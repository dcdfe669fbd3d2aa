import TableSearch.Proofs.Config
import TableSearch.Proofs.DateFilter
import TableSearch.Proofs.SuggestionList
import TableSearch.Source.Labels

/-!
# Filters on suggested keys

A column that is suggested of itself offers its cells as keys. The equality filter for a key looks
for the normal form that the key has in the type of the column, which a cell need not be stored in.
Main statement: the filter takes the row that the key comes from exactly if the key is in normal
form (`suggestions_filtered`).
-/
namespace TableSearch

open Calendar

/-- What an equality filter on a column of the type looks for: the decimal form of an integer, the
written form of a date-time, and of other values what is displayed. -/
def ColumnType.normalForm? (type : ColumnType) (v : Value) : Option String :=
  match type with
  | .integer => v.toInteger?.map Text.writeInt64
  | .date => dateText? v
  | .string | .member => if v.isNull then none else some v.display

/-- A value that is stored in the normal form of a type. -/
inductive Value.IsNormal : ColumnType → Value → Prop
  | integer (n : Int64) : IsNormal .integer (.integer n)
  | numeral {s : String} {n : Int64} (h : (Value.text s).toInteger? = some n)
    (hs : Text.isDecimal s.toList) : IsNormal .integer (.text s)
  | date {s : String} {t : DateTime} (h : readDateTime? s = some t) (hs : t.write = s) :
    IsNormal .date (.text s)
  | string {v : Value} (h : v ≠ .null) : IsNormal .string v
  | member {v : Value} (h : v ≠ .null) : IsNormal .member v

def Suggestion.filter (s : Suggestion) (column : String) : Filter := ⟨column, .equals, [s.key]⟩

section NormalForm

variable {type : ColumnType} {v : Value}

theorem writeInt64_ne_write (n : Int64) (t : DateTime) : Text.writeInt64 n ≠ t.write := by
  intro h
  have hblank : ' ' ∈ t.write.toList := by simp [DateTime.write]
  rw [← h, Text.writeInt64, Text.writeInteger, String.toList_ofList] at hblank
  exact absurd (Text.isBlank_of_mem_integerChars hblank) (by decide)

theorem displayed_of_ne_null (h : v ≠ .null) :
    (if v.isNull then none else some v.display) = some v.display := by
  rw [Value.isNull_eq_false h, if_neg Bool.false_ne_true]

theorem isNormal_iff : v.IsNormal type ↔ type.normalForm? v = some v.display := by
  constructor
  · intro h
    cases h with
    | integer n => rfl
    | numeral h hs =>
      rw [ColumnType.normalForm?, h, Option.map_some, ← (Value.eq_writeInt64_iff h).mpr hs]
      rfl
    | date h hs =>
      rw [ColumnType.normalForm?, dateText?, h, Option.map_some, hs]
      rfl
    | string h => exact displayed_of_ne_null h
    | member h => exact displayed_of_ne_null h
  · intro h
    have hnull : v ≠ .null := by
      rintro rfl
      cases type <;> cases h
    cases type with
    | string => exact .string hnull
    | member => exact .member hnull
    | integer =>
      obtain ⟨n, hn, hs⟩ := Option.map_eq_some_iff.mp h
      cases v with
      | null => exact absurd rfl hnull
      | integer k => exact .integer k
      | text s => exact .numeral hn ((Value.eq_writeInt64_iff hn).mp hs.symm)
    | date =>
      cases v with
      | null => exact absurd rfl hnull
      | integer n =>
        obtain ⟨t, -, ht⟩ := Option.map_eq_some_iff.mp h
        exact absurd ht.symm (writeInt64_ne_write n t)
      | text s =>
        obtain ⟨t, ht, hs⟩ := Option.map_eq_some_iff.mp h
        exact .date ht hs

theorem map_display_coerce? (type : ColumnType) (v : Value) :
    (coerce? type .equals v).map Value.display = type.normalForm? v := by
  by_cases h : v = .null
  · subst h
    cases type <;> rfl
  · have hnull := Value.isNull_eq_false h
    cases type with
    | string => simp [coerce?, ColumnType.normalForm?, hnull, Value.display]
    | integer =>
      simp only [coerce?, hnull, Bool.false_eq_true, if_false, Option.map_map]
      rfl
    | date =>
      simp only [coerce?, hnull, Bool.false_eq_true, if_false, Option.map_map]
      exact congrFun Option.map_id (dateText? v)
    | member => simp [coerce?, ColumnType.normalForm?, hnull, Value.display, Logic.isMembership]

end NormalForm

section Equality

variable {schema : Schema} {column : Column} {v : Value} {s : String}

/-- The equality filter of a column takes the cells that display the normal form of its value. -/
theorem equals_selects (hcolumn : schema.column? column.id = some column)
    (h : column.type.normalForm? v = some s) (row : Row) :
    Filter.Selects ⟨column.id, .equals, [v]⟩ schema row
      (row.get column.id ≠ .null ∧ (row.get column.id).display = s) := by
  rw [← map_display_coerce?] at h
  obtain ⟨w, hw, rfl⟩ := Option.map_eq_some_iff.mp h
  refine ⟨_, Filter.compile_coerced hcolumn rfl (.cons hw .nil), ?_⟩
  by_cases hcell : row.get column.id = .null
  · simp [Condition.accepts, Condition.column, hcell, Value.isNull]
  · rw [accepts_compare hcell, Comparison.holds, Value.looseEq_iff hcell (coerce?_ne_null hw),
      and_iff_right hcell]

theorem equals_incompatible (hcolumn : schema.column? column.id = some column)
    (h : column.type.normalForm? v = none) :
    Filter.compile ⟨column.id, .equals, [v]⟩ schema =
      .error (.incompatible column.id v.display column.type) := by
  rw [← map_display_coerce?, Option.map_eq_none_iff] at h
  exact Filter.compile_incompatible hcolumn rfl h []

end Equality

/-- What a suggestion of a column is in a table, and what the filter for it does there. -/
structure Suggestion.FilteredIn (schema : Schema) (column : Column) (rows : List Row)
    (s : Suggestion) : Prop where
  /-- The suggestion is a cell of the column. -/
  origin : ∃ row ∈ rows, row.get column.id = s.key
  key_ne_null : s.key ≠ .null
  label : s.label = s.key.display
  /-- The filter compiles if the key has a normal form, else it is refused. -/
  compiles : (column.type.normalForm? s.key).isSome →
    ∃ condition, (s.filter column.id).compile schema = .ok condition
  refused : column.type.normalForm? s.key = none →
    (s.filter column.id).compile schema =
      .error (.incompatible column.id s.key.display column.type)
  /-- The filter takes the rows that the suggestion comes from if the key is in normal form. -/
  origins_taken : ∀ row, row.get column.id = s.key →
    ((s.filter column.id).accepts schema row ↔ s.key.IsNormal column.type)
  /-- The filter takes some row if a cell displays the normal form of the key. -/
  some_taken : (∃ row ∈ rows, (s.filter column.id).accepts schema row) ↔
    ∃ row ∈ rows, row.get column.id ≠ .null ∧
      column.type.normalForm? s.key = some (row.get column.id).display

theorem filteredIn_of_origin {schema : Schema} {column : Column} {rows : List Row}
    (hcolumn : schema.column? column.id = some column) {row : Row} (hrow : row ∈ rows)
    (hcell : row.get column.id ≠ .null) :
    Suggestion.FilteredIn schema column rows
      ⟨row.get column.id, (row.get column.id).display⟩ := by
  have hselects {form : String} (h : column.type.normalForm? (row.get column.id) = some form)
      (other : Row) := (equals_selects hcolumn h other).accepts_iff
  have hrefused (h : column.type.normalForm? (row.get column.id) = none) (other : Row) :
      Filter.accepts ⟨column.id, .equals, [row.get column.id]⟩ schema other = false := by
    rw [Filter.accepts, equals_incompatible hcolumn h]
  have htaken (other : Row) :
      Filter.accepts ⟨column.id, .equals, [row.get column.id]⟩ schema other ↔
        other.get column.id ≠ .null ∧
          column.type.normalForm? (row.get column.id) = some (other.get column.id).display := by
    cases h : column.type.normalForm? (row.get column.id) with
    | none => simp [hrefused h other]
    | some form => rw [hselects h other, Option.some.injEq, eq_comm]
  refine ⟨⟨row, hrow, rfl⟩, hcell, rfl, ?_, equals_incompatible hcolumn, ?_, ?_⟩
  · intro h
    obtain ⟨form, hform⟩ := Option.isSome_iff_exists.mp h
    obtain ⟨condition, hcompile, -⟩ := equals_selects hcolumn hform row
    exact ⟨condition, hcompile⟩
  · intro other hother
    rw [isNormal_iff, Suggestion.filter, htaken, hother, and_iff_right hcell]
  · simp only [Suggestion.filter, htaken]

section Suggested

variable {c : Config} {name : String} {t : TableSetup} {tc : TableColumn}

/-- A valid configuration suggests a column without a look-up out of the column itself. -/
theorem suggest_own (hconfig : c.error? = none) (ht : (name, t) ∈ c.tables.toList)
    (htc : tc ∈ t.columns) (hoptions : tc.column.options = some .suggested)
    (hlookup : tc.lookup = none) (m : Memory) (partialText : String) :
    t.schema.column? tc.column.id = some tc.column ∧
    (t.source name).suggest tc.column.id partialText m =
      (.ok ((m.offersInOrder (.own t.table tc.column.id) ⟨.anywhere, partialText⟩).take
        suggestionLimit), m) := by
  have hnodup := Schema.nodup_columnIds (Config.schema_error?_eq_none hconfig ht)
  have htoColumn : tc.toColumn = tc.column := by rw [TableColumn.toColumn, hlookup]
  have hmem : tc.column ∈ t.schema.columns := List.mem_map.mpr ⟨tc, htc, htoColumn⟩
  have hcolumn : t.schema.column? tc.column.id = some tc.column :=
    Schema.column?_eq_some hnodup hmem
  have hrule : (t.source name).suggestRule tc.column = some (.own t.table tc.column.id) := by
    simp [TableSetup.source, TableSetup.lookup?_eq_none hnodup htc hlookup, hoptions]
  have hbind : ((t.source name).schema.column? tc.column.id).bind (t.source name).suggestRule =
      some (.own t.table tc.column.id) := by
    change (t.schema.column? tc.column.id).bind _ = _
    rw [hcolumn]
    exact hrule
  refine ⟨hcolumn, ?_⟩
  unfold Source.suggest
  rw [hbind]
  change (Except.ok ((m.suggest _ _ suggestionLimit).take suggestionLimit), m) = _
  rw [Memory.suggest_eq, Int.toNat_natCast, List.take_take, Nat.min_self]

/-- A column of a valid configuration that is suggested of itself: asking for suggestions succeeds,
with some if a cell contains the text, and every suggestion is a cell of the table. The filter for
it takes the rows with that cell exactly if it is stored in normal form. -/
theorem suggestions_filtered (hconfig : c.error? = none) (ht : (name, t) ∈ c.tables.toList)
    (htc : tc ∈ t.columns) (hoptions : tc.column.options = some .suggested)
    (hlookup : tc.lookup = none) (m : Memory) (partialText : String) :
    ∃ found, (t.source name).suggest tc.column.id partialText m = (.ok found, m) ∧
      (∀ row ∈ (m.rows t.table).values,
        row.Suggests (.own t.table tc.column.id) ⟨.anywhere, partialText⟩ → found ≠ []) ∧
      ∀ s ∈ found, s.FilteredIn t.schema tc.column (m.rows t.table).values := by
  obtain ⟨hcolumn, hsuggest⟩ := suggest_own hconfig ht htc hoptions hlookup m partialText
  refine ⟨_, hsuggest, ?_, ?_⟩
  · intro row hrow hsuggests hnone
    have hoffered := Memory.mem_offersInOrder.mpr
      (Memory.mem_offers_iff.mpr ⟨row, hrow, hsuggests, rfl⟩)
    rcases List.take_eq_nil_iff.mp hnone with hlimit | hempty
    · cases hlimit
    · rw [hempty] at hoffered
      cases hoffered
  · intro s hs
    have hoffers := Memory.mem_offersInOrder.mp (List.mem_of_mem_take hs)
    obtain ⟨row, hrow, hsuggests, rfl⟩ := Memory.mem_offers_iff.mp hoffers
    refine filteredIn_of_origin hcolumn hrow ?_
    intro hnull
    have hlabel := hsuggests.1
    rw [ForeignKey.own, hnull] at hlabel
    cases hlabel

end Suggested

section Diary

def entryColumn : TableColumn := { column := { dayColumn with options := some .suggested } }

def entries : TableSetup where
  label := "Entries"
  table := "entries"
  titleColumn := "day"
  columns := [entryColumn]

def diary : Config where
  path := "search.toml"
  tables := .ofList [("entries", entries)]

def diaryStore (day : String) : Memory :=
  ({} : Memory).insert ⟨"entries", "id"⟩ ⟨1, Dict.empty.insert "day" (.text day)⟩

def daySuggestion (day : String) : Suggestion := ⟨.text day, day⟩

/-- A day in its written form is suggested, and the filter for it finds the entry. -/
theorem suggestions_filtered_sample :
    diary.error? = none ∧ ("entries", entries) ∈ diary.tables.toList ∧
      entryColumn ∈ entries.columns ∧ entryColumn.column.options = some .suggested ∧
      entryColumn.lookup = none ∧
      (entries.source "entries").suggest "day" "2024" (diaryStore "2024-01-31 00:00:00") =
        (.ok [daySuggestion "2024-01-31 00:00:00"], diaryStore "2024-01-31 00:00:00") ∧
      ∃ row ∈ ((diaryStore "2024-01-31 00:00:00").rows "entries").values,
        ((daySuggestion "2024-01-31 00:00:00").filter "day").accepts entries.schema row := by
  have hconfig : diary.error? = none := by decide
  have ht : ("entries", entries) ∈ diary.tables.toList := by decide
  have htc : entryColumn ∈ entries.columns := by decide
  have hvalue : (entries.source "entries").suggest "day" "2024"
      (diaryStore "2024-01-31 00:00:00") =
        (.ok [daySuggestion "2024-01-31 00:00:00"], diaryStore "2024-01-31 00:00:00") := by rfl
  obtain ⟨found, hsuggest, -, hfound⟩ := suggestions_filtered hconfig ht htc rfl rfl
    (diaryStore "2024-01-31 00:00:00") "2024"
  have hone : found = [daySuggestion "2024-01-31 00:00:00"] :=
    Except.ok.inj (Prod.mk.inj (hsuggest.symm.trans hvalue)).1
  have hfiltered := hfound (daySuggestion "2024-01-31 00:00:00") (by simp [hone])
  obtain ⟨row, hrow, hcell⟩ := hfiltered.origin
  have hread : readDateTime? "2024-01-31 00:00:00" = some ⟨⟨2024, 1, 31⟩, 0, 0, 0⟩ := by decide
  exact ⟨hconfig, ht, htc, rfl, rfl, hvalue, row, hrow,
    (hfiltered.origins_taken row hcell).mpr (.date hread (by decide))⟩

/-- A day without a time is suggested, but the filter for it looks for the beginning of the day. -/
theorem suggestion_not_found :
    diary.error? = none ∧ ("entries", entries) ∈ diary.tables.toList ∧
      entryColumn ∈ entries.columns ∧ entryColumn.column.options = some .suggested ∧
      entryColumn.lookup = none ∧
      (entries.source "entries").suggest "day" "2024" (diaryStore "2024-01-31") =
        (.ok [daySuggestion "2024-01-31"], diaryStore "2024-01-31") ∧
      ((daySuggestion "2024-01-31").filter "day").compile entries.schema =
        .ok (.compare "day" .equal (.text "2024-01-31 00:00:00")) ∧
      ∀ row ∈ ((diaryStore "2024-01-31").rows "entries").values,
        ¬((daySuggestion "2024-01-31").filter "day").accepts entries.schema row := by
  exact ⟨by decide, by decide, by decide, rfl, rfl, by rfl, by rfl, by decide⟩

end Diary

end TableSearch
