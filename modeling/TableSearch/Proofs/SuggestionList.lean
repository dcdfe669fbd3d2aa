import Mathlib.Data.List.Sort
import TableSearch.Proofs.Encoding
import TableSearch.Proofs.Suggestions

/-!
# Suggestions from keys of one kind

Where all keys that a pattern offers are integers, or all are texts, the suggestions are the
beginning of one list: every pair of a key and a label that some row offers, once, by the bytes of
the labels and then by the keys. Main statement: `suggest_eq_take`.
-/
namespace TableSearch

namespace Sql.Cell

theorem orderBytes_eq_lt_iff {l m : List UInt8} : orderBytes l m = .lt ↔ l < m := by
  fun_induction orderBytes l m with
  | case1 => simp
  | case2 m hm =>
    cases m with
    | nil => exact absurd rfl hm
    | cons b m => simp
  | case3 l hl =>
    cases l with
    | nil => exact absurd rfl hl
    | cons a l => simp
  | case4 a l b m ih =>
    rw [Ordering.then_eq_lt, Std.compare_eq_lt, Std.compare_eq_iff_eq, ih, List.cons_lt_cons_iff]

end Sql.Cell

theorem Text.Utf8.encode_lt_iff {s t : String} : encode s < encode t ↔ compare s t = .lt := by
  rw [← Sql.Cell.orderBytes_eq_lt_iff, Sql.Cell.orderBytes_encode]

/-- A key before another of its kind: an integer before a greater one, a text by its bytes. -/
inductive Value.Precedes : Value → Value → Prop
  | integer {m n : Int64} (h : m.toInt < n.toInt) : Precedes (.integer m) (.integer n)
  | text {s t : String} (h : Text.Utf8.encode s < Text.Utf8.encode t) :
    Precedes (.text s) (.text t)

/-- A suggestion before another: by the bytes of the labels, and for one label by the keys. -/
def Suggestion.Precedes (s t : Suggestion) : Prop :=
  Text.Utf8.encode s.label < Text.Utf8.encode t.label ∨ s.label = t.label ∧ s.key.Precedes t.key

namespace Row

variable (row : Row) (labels : ForeignKey)

/-- Whether a row has a label and the label satisfies a pattern. -/
def Suggests (pattern : LikePattern) : Prop :=
  (row.get labels.label).isNull = false ∧ pattern.accepts (row.get labels.label).display = true

def suggestion : Suggestion := ⟨row.get labels.key, (row.get labels.label).display⟩

end Row

namespace Memory

/-- All keys that a pattern offers are integers, or all are texts. -/
def OffersOneKind (m : Memory) (labels : ForeignKey) (pattern : LikePattern) : Prop :=
  (∀ row ∈ (m.rows labels.table).values, row.Suggests labels pattern →
      ∃ n, row.get labels.key = .integer n) ∨
    ∀ row ∈ (m.rows labels.table).values, row.Suggests labels pattern →
      ∃ s, row.get labels.key = .text s

section Order

theorem keyOrder_of_precedes {a b : Value} (h : a.Precedes b) : keyOrder a b = .lt := by
  cases h with
  | integer h =>
    rw [keyOrder, Value.order_integer]
    exact Std.compare_eq_lt.mpr (Int64.lt_iff_toInt_lt.mpr h)
  | text h =>
    rw [keyOrder, Value.order_text]
    exact Text.Utf8.encode_lt_iff.mp h

theorem precedes_of_integer {m n : Int64} (h : keyOrder (.integer m) (.integer n) = .lt) :
    Value.Precedes (.integer m) (.integer n) := by
  rw [keyOrder, Value.order_integer] at h
  exact .integer (Int64.lt_iff_toInt_lt.mp (Std.compare_eq_lt.mp h))

theorem precedes_of_text {s t : String} (h : keyOrder (.text s) (.text t) = .lt) :
    Value.Precedes (.text s) (.text t) := by
  rw [keyOrder, Value.order_text] at h
  exact .text (Text.Utf8.encode_lt_iff.mpr h)

theorem suggestionOrder_of_precedes {s t : Suggestion} (h : s.Precedes t) :
    suggestionOrder s t = .lt := by
  rw [suggestionOrder_eq, Ordering.then_eq_lt]
  rcases h with hlabel | ⟨hlabel, hkey⟩
  · exact .inl (Text.Utf8.encode_lt_iff.mp hlabel)
  · exact .inr ⟨Std.compare_eq_iff_eq.mpr hlabel, keyOrder_of_precedes hkey⟩

theorem precedes_of_order {s t : Suggestion} (h : suggestionOrder s t = .lt)
    (hkey : keyOrder s.key t.key = .lt → s.key.Precedes t.key) : s.Precedes t := by
  rw [suggestionOrder_eq, Ordering.then_eq_lt] at h
  rcases h with hlabel | ⟨hlabel, hlt⟩
  · exact .inl (Text.Utf8.encode_lt_iff.mpr hlabel)
  · exact .inr ⟨Std.compare_eq_iff_eq.mp hlabel, hkey hlt⟩

instance : Std.Asymm Suggestion.Precedes where
  asymm s t hst hts := by
    have hlt := suggestionOrder_of_precedes hst
    rw [suggestionOrder_swap t s, suggestionOrder_of_precedes hts] at hlt
    cases hlt

end Order

variable {m : Memory} {labels : ForeignKey} {pattern : LikePattern}

theorem mem_offers_iff {s : Suggestion} :
    s ∈ m.offers labels pattern ↔ ∃ row ∈ (m.rows labels.table).values,
      row.Suggests labels pattern ∧ row.suggestion labels = s := by
  simp only [offers, Row.Suggests, Row.suggestion, List.mem_map, List.mem_filter,
    Bool.and_eq_true, Bool.not_eq_true', and_assoc]

theorem forall_key_offers (kind : Value → Prop) (h : ∀ row ∈ (m.rows labels.table).values,
    row.Suggests labels pattern → kind (row.get labels.key)) :
    ∀ s ∈ m.offers labels pattern, kind s.key := by
  intro s hs
  obtain ⟨row, hrow, hsuggests, rfl⟩ := mem_offers_iff.mp hs
  exact h row hrow hsuggests

/-- Every suggestion that some row offers, in order and once. -/
def offersInOrder (m : Memory) (labels : ForeignKey) (pattern : LikePattern) : List Suggestion :=
  dropRepeats (sortSuggestions (m.offers labels pattern))

theorem suggest_eq (limit : Int) :
    m.suggest labels pattern limit = (m.offersInOrder labels pattern).take limit.toNat := rfl

theorem mem_offersInOrder {s : Suggestion} :
    s ∈ m.offersInOrder labels pattern ↔ s ∈ m.offers labels pattern := by
  rw [offersInOrder, mem_dropRepeats, (sortSuggestions_perm _).mem_iff]

/-- Keys of one kind are linearly ordered, so the list strictly increases. -/
theorem offersInOrder_pairwise {kind : Value → Prop} (hlinear : LinearOn keyOrder kind)
    (hkind : ∀ s ∈ m.offers labels pattern, kind s.key)
    (hkey : ∀ a b, kind a → kind b → keyOrder a b = .lt → a.Precedes b) :
    (m.offersInOrder labels pattern).Pairwise Suggestion.Precedes := by
  have hsuggest := suggest_pairwise (fun _ => hlinear) hkind
    (m.offersInOrder labels pattern).length
  rw [suggest_eq, Int.toNat_natCast, List.take_length] at hsuggest
  refine hsuggest.imp_of_mem ?_
  intro s t hs ht hlt
  apply precedes_of_order hlt
  exact hkey _ _ (hkind s (mem_offersInOrder.mp hs)) (hkind t (mem_offersInOrder.mp ht))

theorem offersInOrder_precedes (h : m.OffersOneKind labels pattern) :
    (m.offersInOrder labels pattern).Pairwise Suggestion.Precedes := by
  rcases h with h | h
  · apply offersInOrder_pairwise linearOn_integer
    · exact forall_key_offers (fun v => ∃ n, v = .integer n) h
    · rintro _ _ ⟨m, rfl⟩ ⟨n, rfl⟩
      exact precedes_of_integer
  · apply offersInOrder_pairwise linearOn_text
    · exact forall_key_offers (fun v => ∃ s, v = .text s) h
    · rintro _ _ ⟨s, rfl⟩ ⟨t, rfl⟩
      exact precedes_of_text

/-- With keys of one kind there is exactly one strictly increasing list of all that the rows offer,
and suggestions are as many of its first elements as the limit admits, none below zero. -/
theorem suggest_eq_take (h : m.OffersOneKind labels pattern) :
    ∃ all : List Suggestion,
      all.Pairwise Suggestion.Precedes ∧ all.Nodup ∧
      (∀ s, s ∈ all ↔ ∃ row ∈ (m.rows labels.table).values,
        row.Suggests labels pattern ∧ row.suggestion labels = s) ∧
      (∀ other : List Suggestion, other.Pairwise Suggestion.Precedes →
        (∀ s, s ∈ other ↔ s ∈ all) → other = all) ∧
      ∀ limit : Int,
        Store.suggest labels pattern limit m = (.ok (all.take (max limit 0).toNat), m) := by
  have hall := offersInOrder_precedes h
  refine ⟨m.offersInOrder labels pattern, hall, ?_, ?_, ?_, ?_⟩
  · refine hall.imp ?_
    rintro s _ hs rfl
    exact Std.Irrefl.irrefl s hs
  · intro s
    rw [mem_offersInOrder, mem_offers_iff]
  · exact fun other hother hmem => hother.eq_of_mem_iff hall hmem
  · intro limit
    have hlimit : (max limit 0).toNat = limit.toNat := by omega
    rw [suggest_apply, suggest_eq, hlimit]

section Sample

/-- Four rows whose labels have an `a`, with texts as keys, and one without such a label or key. -/
def sampleItems : Memory :=
  [item "ab" 0 (.text "9"), item "a" 1 (.text "9"), item "b" 2 .null, item "a" 3 (.text "10"),
    item "a" 4 (.text "9")].foldl (fun m row => m.insert ⟨"items", "id"⟩ row) {}

theorem offers_sampleItems : sampleItems.offers itemLabels ⟨.anywhere, "a"⟩ =
    [⟨.text "9", "ab"⟩, ⟨.text "9", "a"⟩, ⟨.text "10", "a"⟩, ⟨.text "9", "a"⟩] := by
  decide

/-- As texts, ten comes before nine. -/
theorem suggest_eq_take_sample :
    sampleItems.OffersOneKind itemLabels ⟨.anywhere, "a"⟩ ∧
      Store.suggest itemLabels ⟨.anywhere, "a"⟩ 2 sampleItems =
        (.ok [⟨.text "10", "a"⟩, ⟨.text "9", "a"⟩], sampleItems) := by
  have hkind : sampleItems.OffersOneKind itemLabels ⟨.anywhere, "a"⟩ := by
    right
    intro row hrow hsuggests
    have hs := mem_offers_iff.mpr ⟨row, hrow, hsuggests, rfl⟩
    rw [offers_sampleItems] at hs
    simp only [Row.suggestion, List.mem_cons, Suggestion.mk.injEq, List.not_mem_nil,
      or_false] at hs
    rcases hs with ⟨h, -⟩ | ⟨h, -⟩ | ⟨h, -⟩ | ⟨h, -⟩
    all_goals exact ⟨_, h⟩
  obtain ⟨all, -, -, hmem, hunique, hsuggest⟩ := suggest_eq_take hkind
  have hall : [⟨.text "10", "a"⟩, ⟨.text "9", "a"⟩, ⟨.text "9", "ab"⟩] = all := by
    apply hunique
    · have hkeys : Value.Precedes (.text "10") (.text "9") :=
        .text (Text.Utf8.encode_lt_iff.mpr rfl)
      have hlabels : Text.Utf8.encode "a" < Text.Utf8.encode "ab" :=
        Text.Utf8.encode_lt_iff.mpr rfl
      simp [Suggestion.Precedes, hkeys, hlabels]
    · intro s
      rw [hmem, ← mem_offers_iff, offers_sampleItems]
      simp only [List.mem_cons, List.not_mem_nil, or_false]
      tauto
  refine ⟨hkind, ?_⟩
  rw [hsuggest 2, ← hall]
  rfl

end Sample

end Memory

end TableSearch
