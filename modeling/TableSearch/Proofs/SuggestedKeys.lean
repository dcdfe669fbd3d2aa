import TableSearch.Proofs.Config
import TableSearch.Proofs.History
import TableSearch.Proofs.SuggestionList
import TableSearch.Source.Labels
import TableSearch.Source.Redirection

/-!
# Suggested keys have labels

Whatever was written to a table before, the cells in its id column are the distinct numbers of its
rows. So the row that a look-up by such a number finds first is the row that a suggestion with this
key came from, and the label there is the one that was suggested. Main statement: the keys that are
suggested are preloaded, one for one and with the same labels (`suggested_keys_resolved`).
-/
namespace TableSearch

namespace Memory

variable {m : Memory} {idColumn : String → String}

theorem Keyed.get_idColumn (h : Keyed idColumn m) {table : String} {row : Row}
    (hrow : row ∈ (m.rows table).values) : row.get (idColumn table) = .integer row.id := by
  have hfetch : m.fetch (tableOf idColumn table) row.id = some row :=
    h.filed.get?_of_mem_values hrow
  rw [Row.get, h.cell hfetch, Option.getD_some]

theorem Filed.eq_of_id_eq (h : m.Filed) {table : String} {row other : Row}
    (hrow : row ∈ (m.rows table).values) (hother : other ∈ (m.rows table).values)
    (hid : other.id = row.id) : other = row := by
  have hget := h.get?_of_mem_values hother
  rw [hid, h.get?_of_mem_values hrow] at hget
  exact (Option.some.inj hget).symm

section Lookup

variable {labels : ForeignKey} {row : Row} {key : Value}

theorem Keyed.looseEq_iff (h : Keyed idColumn m) (hkey : labels.key = idColumn labels.table)
    (hrow : row ∈ (m.rows labels.table).values) (hnull : key ≠ .null)
    (hdisplay : key.display = Text.writeInt64 row.id) {other : Row}
    (hother : other ∈ (m.rows labels.table).values) :
    (other.get labels.key).looseEq key ↔ other = row := by
  rw [hkey, h.get_idColumn hother, Value.looseEq_iff (Value.integer_ne_null _) hnull, hdisplay,
    Value.display, Text.writeInt64_inj]
  constructor
  · exact h.filed.eq_of_id_eq hrow hother
  · rintro rfl
    rfl

/-- A look-up by the number of a row finds the row, whether the number is given as an integer or as
its decimal text. -/
theorem Keyed.lookup_row (h : Keyed idColumn m) (hkey : labels.key = idColumn labels.table)
    (hrow : row ∈ (m.rows labels.table).values) (hnull : key ≠ .null)
    (hdisplay : key.display = Text.writeInt64 row.id)
    (hlabel : (row.get labels.label).isNull = false) :
    m.lookup labels key = some (row.get labels.label).display := by
  have hmatch (other : Row) (hother : other ∈ (m.rows labels.table).values) :
      ((other.get labels.key).looseEq key && !key.isNull) = true ↔ other = row := by
    rw [Value.isNull_eq_false hnull, Bool.not_false, Bool.and_true]
    exact h.looseEq_iff hkey hrow hnull hdisplay hother
  rw [lookup, find?_eq_some_of_iff hrow hmatch]
  dsimp only
  rw [hlabel]
  rfl

/-- The key of a suggestion is a number under which its label is found. -/
theorem Keyed.lookup_suggestion (h : Keyed idColumn m) (hkey : labels.key = idColumn labels.table)
    {pattern : LikePattern} {limit : Int} {s : Suggestion}
    (hs : s ∈ m.suggest labels pattern limit) :
    ∃ id, s.key = .integer id ∧ m.lookup labels (.integer id) = some s.label ∧
      m.lookup labels (.text (Text.writeInt64 id)) = some s.label := by
  rw [suggest_eq] at hs
  obtain ⟨row, hrow, hsuggests, rfl⟩ :=
    mem_offers_iff.mp (mem_offersInOrder.mp (List.mem_of_mem_take hs))
  refine ⟨row.id, ?_, ?_, ?_⟩
  · rw [Row.suggestion, hkey]
    exact h.get_idColumn hrow
  · exact h.lookup_row hkey hrow (Value.integer_ne_null _) rfl hsuggests.1
  · exact h.lookup_row hkey hrow (Value.text_ne_null _) rfl hsuggests.1

end Lookup

theorem lookup_apply {labels : ForeignKey} {key : Value} {label : Option String}
    (h : m.lookup labels key = label) : Store.lookup labels key m = (.ok label, m) := by
  rw [← h]
  rfl

end Memory

theorem ForeignKey.preload_of_resolved {m : Memory} {labels : ForeignKey} (column : String)
    {found : List Suggestion} (h : ∀ s ∈ found, m.lookup labels s.key = some s.label) :
    labels.preload column (found.map (·.key)) m =
      (.ok (found.map fun s => .of s.label column s.key), m) := by
  induction found with
  | nil => rfl
  | cons s found ih =>
    obtain ⟨hs, hfound⟩ := List.forall_mem_cons.mp h
    rw [List.map_cons, ForeignKey.preload, Access.bind_ok (Memory.lookup_apply hs),
      Access.bind_ok (ih hfound)]
    rfl

namespace Source

variable {s : Source} {c : Column} {labels : ForeignKey}

theorem suggest_of_rule {m : Memory} (hcolumn : s.schema.column? c.id = some c)
    (hrule : s.suggestRule c = some labels) {partialText : String} {found : List Suggestion}
    (hfound : labels.suggest partialText m = (.ok found, m)) :
    s.suggest c.id partialText m = (.ok found, m) := by
  have hbind : (s.schema.column? c.id).bind s.suggestRule = some labels := by
    rw [hcolumn]
    exact hrule
  have hlength : found.length ≤ suggestionLimit := by
    obtain rfl := Except.ok.inj (congrArg Prod.fst hfound)
    rw [Memory.suggest_eq, Int.toNat_natCast]
    exact List.length_take_le _ _
  unfold suggest
  rw [hbind]
  dsimp only
  rw [Access.bind_ok (Access.mapError_ok hfound), List.take_of_length_le hlength]
  rfl

theorem preload_of_rule {m : Memory} (hcolumn : s.schema.column? c.id = some c)
    (hrule : s.preloadRule c = .lookup labels) (hpreload : c.preload = true) {logic : Logic}
    (hlogic : logic.isMembership = true) {keys : List Value} {items : List PreloadItem}
    (hitems : labels.preload c.id keys m = (.ok items, m)) :
    s.preload ⟨c.id, logic, keys⟩ m = (.ok items, m) := by
  unfold preload
  rw [hcolumn]
  dsimp only
  rw [hpreload, hlogic, Bool.and_self, if_pos rfl, hrule]
  exact Access.mapError_ok hitems

end Source

/-- After any insertions, updates and deletions: a look-up by a suggested key, or by its decimal
text, finds the label that was suggested. So the suggested keys are preloaded one for one, in the
same order and with the same labels, and a membership filter with these keys on a column that is
labelled, suggested and preloaded out of the table yields the same items. -/
theorem suggested_keys_resolved (idColumn : String → String) (calls : List Memory.Call)
    {labels : ForeignKey} (hkey : labels.key = idColumn labels.table) (partialText : String) :
    let m := Memory.history idColumn calls
    ∃ found, labels.suggest partialText m = (.ok found, m) ∧
      (∀ s ∈ found, ∃ id, s.key = .integer id ∧
        Store.lookup labels (.integer id) m = (.ok (some s.label), m) ∧
        Store.lookup labels (.text (Text.writeInt64 id)) m = (.ok (some s.label), m)) ∧
      (∀ column, labels.preload column (found.map (·.key)) m =
        (.ok (found.map fun s => .of s.label column s.key), m)) ∧
      ∀ (source : Source) (c : Column), source.schema.column? c.id = some c →
        source.suggestRule c = some labels → source.preloadRule c = .lookup labels →
        c.preload = true → source.suggest c.id partialText m = (.ok found, m) ∧
        ∀ logic : Logic, logic.isMembership = true →
          source.preload ⟨c.id, logic, found.map (·.key)⟩ m =
            (.ok (found.map fun s => .of s.label c.id s.key), m) := by
  intro m
  obtain ⟨found, hfound, hlookup⟩ : ∃ found, labels.suggest partialText m = (.ok found, m) ∧
      ∀ s ∈ found, ∃ id, s.key = .integer id ∧ m.lookup labels (.integer id) = some s.label ∧
        m.lookup labels (.text (Text.writeInt64 id)) = some s.label :=
    ⟨_, rfl, fun _ hs => (Memory.keyed_history idColumn calls).lookup_suggestion hkey hs⟩
  have hpreload (column : String) : labels.preload column (found.map (·.key)) m =
      (.ok (found.map fun s => .of s.label column s.key), m) := by
    refine ForeignKey.preload_of_resolved column fun s hs => ?_
    obtain ⟨id, hid, hlabel, -⟩ := hlookup s hs
    rw [hid, hlabel]
  refine ⟨found, hfound, ?_, hpreload, ?_⟩
  · intro s hs
    obtain ⟨id, hid, hinteger, htext⟩ := hlookup s hs
    exact ⟨id, hid, Memory.lookup_apply hinteger, Memory.lookup_apply htext⟩
  · intro source c hcolumn hsuggest hrule hc
    exact ⟨Source.suggest_of_rule hcolumn hsuggest hfound, fun logic hlogic =>
      Source.preload_of_rule hcolumn hrule hc hlogic (hpreload c.id)⟩

section Groups

def groupRow (id : Int64) (name : Value) : Row := ⟨id, .ofList [("name", name)]⟩

/-- Groups that are added, renamed and removed again. -/
def groupCalls : List Memory.Call :=
  let table := Redirection.groupsTable "wp_"
  [.insert table (groupRow 12 (.text "Marketing")), .insert table (groupRow 1 (.text "Redirections")),
    .insert table (groupRow 3 (.text "Archive")), .insert table (groupRow 4 .null),
    .update table (groupRow 3 (.text "Marketing")), .delete table 1]

/-- The two groups of one name that are left are suggested for a redirection, and the filter on
both keys is labelled with their name. -/
theorem suggested_keys_resolved_sample :
    let m := Memory.history (fun _ => "id") groupCalls
    (Redirection.groupNames "wp_").key = "id" ∧
      (Redirection.items "wp_").suggest "group_id" "ARK" m =
        (.ok [⟨.integer 3, "Marketing"⟩, ⟨.integer 12, "Marketing"⟩], m) ∧
      (Redirection.items "wp_").preload ⟨"group_id", .includes, [.integer 3, .integer 12]⟩ m =
        (.ok [⟨"Marketing", "group_id_3"⟩, ⟨"Marketing", "group_id_12"⟩], m) := by
  intro m
  have hkey : (Redirection.groupNames "wp_").key = "id" := rfl
  obtain ⟨found, hfound, -, -, hsource⟩ :=
    suggested_keys_resolved (fun _ => "id") groupCalls hkey "ARK"
  have hvalue : (Redirection.groupNames "wp_").suggest "ARK" m =
      (.ok [⟨.integer 3, "Marketing"⟩, ⟨.integer 12, "Marketing"⟩], m) := by rfl
  obtain rfl : [⟨.integer 3, "Marketing"⟩, ⟨.integer 12, "Marketing"⟩] = found :=
    Except.ok.inj (congrArg Prod.fst (hvalue.symm.trans hfound))
  obtain ⟨hsuggest, hpreload⟩ := hsource (Redirection.items "wp_")
    { id := "group_id", type := .member, title := "Group", options := some .suggested,
      preload := true } rfl rfl rfl rfl
  exact ⟨hkey, hsuggest, hpreload .includes rfl⟩

end Groups

end TableSearch
