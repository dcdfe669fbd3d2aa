import Mathlib.Data.List.Chain
import Mathlib.Data.List.Nodup
import TableSearch.Proofs.Memory
import TableSearch.Proofs.ValueOrder

/-!
# Suggestions of a store in memory

Suggestions are sorted by label and key, then repeated neighbours are dropped. Keys that have no
order count as equal, and so do a number and its text, so equal suggestions may be kept apart.
Main statement: whatever the rows, no suggestion is repeated, exactly if the keys that come with
one label are linearly ordered (`suggest_nodup_iff`).
-/
namespace TableSearch.Memory

/-- Where an order is linear: only equal elements count as equal, and what is less than a lesser
element is less. -/
structure LinearOn {α : Type} (order : α → α → Ordering) (p : α → Prop) : Prop where
  eq_of_eq {a b : α} (ha : p a) (hb : p b) (h : order a b = .eq) : a = b
  lt_trans {a b c : α} (ha : p a) (hb : p b) (hc : p c) (hab : order a b = .lt)
    (hbc : order b c = .lt) : order a c = .lt

/-- The order of keys with one label, where keys without an order count as equal. -/
def keyOrder (a b : Value) : Ordering := (a.order b).getD .eq

section Order

theorem suggestionOrder_eq (s t : Suggestion) :
    suggestionOrder s t = (compare s.label t.label).then (keyOrder s.key t.key) := rfl

theorem keyOrder_swap (a b : Value) : keyOrder b a = (keyOrder a b).swap := by
  unfold keyOrder
  rw [Value.order_swap a b]
  cases a.order b <;> rfl

theorem suggestionOrder_swap (s t : Suggestion) :
    suggestionOrder t s = (suggestionOrder s t).swap := by
  have hlabel : compare t.label s.label = (compare s.label t.label).swap :=
    Std.OrientedOrd.eq_swap
  rw [suggestionOrder_eq, suggestionOrder_eq, Ordering.swap_then, ← keyOrder_swap, ← hlabel]

theorem keyOrder_self (a : Value) : keyOrder a a = .eq := by
  have h := keyOrder_swap a a
  revert h
  cases keyOrder a a <;> decide

theorem suggestionOrder_self (s : Suggestion) : suggestionOrder s s = .eq := by
  rw [suggestionOrder_eq, keyOrder_self, Std.ReflOrd.compare_self]
  rfl

theorem linearOn_integer : LinearOn keyOrder fun v => ∃ n, v = .integer n where
  eq_of_eq := by
    rintro _ _ ⟨m, rfl⟩ ⟨n, rfl⟩ h
    rw [keyOrder, Value.order_integer] at h
    exact congrArg _ (Std.compare_eq_iff_eq.mp h)
  lt_trans := by
    rintro _ _ _ ⟨l, rfl⟩ ⟨m, rfl⟩ ⟨n, rfl⟩ hlm hmn
    rw [keyOrder, Value.order_integer] at hlm hmn ⊢
    have h : compare l n = .lt := Std.TransCmp.lt_trans hlm hmn
    exact h

theorem linearOn_text : LinearOn keyOrder fun v => ∃ s, v = .text s where
  eq_of_eq := by
    rintro _ _ ⟨s, rfl⟩ ⟨t, rfl⟩ h
    rw [keyOrder, Value.order_text] at h
    exact congrArg _ (Std.compare_eq_iff_eq.mp h)
  lt_trans := by
    rintro _ _ _ ⟨s, rfl⟩ ⟨t, rfl⟩ ⟨u, rfl⟩ hst htu
    rw [keyOrder, Value.order_text] at hst htu ⊢
    have h : compare s u = .lt := Std.TransCmp.lt_trans hst htu
    exact h

/-- Suggestions are linearly ordered if the keys that come with one label are. -/
theorem linearOn_suggestion {keys : String → Value → Prop}
    (h : ∀ label, LinearOn keyOrder (keys label)) :
    LinearOn suggestionOrder fun s => keys s.label s.key where
  eq_of_eq := by
    rintro ⟨key, label⟩ ⟨key', label'⟩ hs ht hst
    obtain ⟨hlabel, hkey⟩ := Ordering.then_eq_eq.mp hst
    obtain rfl : label = label' := Std.compare_eq_iff_eq.mp hlabel
    obtain rfl : key = key' := (h label).eq_of_eq hs ht hkey
    rfl
  lt_trans := by
    rintro ⟨a, label⟩ ⟨b, label'⟩ ⟨c, label''⟩ hs ht hu hst htu
    rw [suggestionOrder_eq, Ordering.then_eq_lt] at hst htu ⊢
    rcases hst with hlt | ⟨heq, hab⟩
    · left
      rcases htu with hlt' | ⟨heq', -⟩
      · exact Std.TransCmp.lt_trans hlt hlt'
      · exact Std.TransCmp.lt_of_lt_of_eq hlt heq'
    · obtain rfl : label = label' := Std.compare_eq_iff_eq.mp heq
      rcases htu with hlt' | ⟨heq', hbc⟩
      · exact .inl hlt'
      · obtain rfl : label = label'' := Std.compare_eq_iff_eq.mp heq'
        exact .inr ⟨heq, (h label).lt_trans hs ht hu hab hbc⟩

end Order

namespace LinearOn

variable {p : Suggestion → Prop} {s t u : Suggestion}

theorem lt_or_eq (h : LinearOn suggestionOrder p) (hs : p s) (ht : p t)
    (hle : suggestionOrder s t ≠ .gt) : suggestionOrder s t = .lt ∨ s = t := by
  cases ho : suggestionOrder s t with
  | lt => exact .inl rfl
  | eq => exact .inr (h.eq_of_eq hs ht ho)
  | gt => exact absurd ho hle

theorem le_trans (h : LinearOn suggestionOrder p) (hs : p s) (ht : p t) (hu : p u)
    (hst : suggestionOrder s t ≠ .gt) (htu : suggestionOrder t u ≠ .gt) :
    suggestionOrder s u ≠ .gt := by
  rcases h.lt_or_eq hs ht hst with hlt | rfl
  · rcases h.lt_or_eq ht hu htu with hlt' | rfl
    · rw [h.lt_trans hs ht hu hlt hlt']
      decide
    · exact hst
  · exact htu

end LinearOn

section Sorting

theorem insertDescending_perm (s : Suggestion) (l : List Suggestion) :
    (insertDescending s l).Perm (s :: l) := by
  induction l with
  | nil => exact .refl _
  | cons t l ih =>
    unfold insertDescending
    split
    · exact (ih.cons t).trans (.swap s t l)
    · exact .refl _

theorem foldl_insertDescending_perm (l sorted : List Suggestion) :
    (l.foldl (fun sorted s => insertDescending s sorted) sorted).Perm (l ++ sorted) := by
  induction l generalizing sorted with
  | nil => exact .refl _
  | cons s l ih =>
    have hs := (insertDescending_perm s sorted).append_left l
    exact (ih _).trans (hs.trans List.perm_middle)

theorem sortSuggestions_perm (l : List Suggestion) : (sortSuggestions l).Perm l := by
  have h := foldl_insertDescending_perm l []
  rw [List.append_nil] at h
  exact (List.reverse_perm _).trans h

variable {p : Suggestion → Prop}

theorem insertDescending_pairwise (h : LinearOn suggestionOrder p) {s : Suggestion} (hs : p s)
    {l : List Suggestion} (hp : ∀ t ∈ l, p t)
    (hl : l.Pairwise fun a b => suggestionOrder b a ≠ .gt) :
    (insertDescending s l).Pairwise fun a b => suggestionOrder b a ≠ .gt := by
  induction l with
  | nil => exact List.pairwise_singleton _ _
  | cons t l ih =>
    obtain ⟨htl, hl⟩ := List.pairwise_cons.mp hl
    obtain ⟨ht, hp⟩ := List.forall_mem_cons.mp hp
    unfold insertDescending
    split
    · rename_i hlt
      refine List.pairwise_cons.mpr ⟨?_, ih hp hl⟩
      intro u hu
      rcases List.mem_cons.mp ((insertDescending_perm s l).mem_iff.mp hu) with rfl | hu
      · rw [beq_iff_eq.mp hlt]
        decide
      · exact htl u hu
    · rename_i hge
      have hts : suggestionOrder t s ≠ .gt := by
        rw [suggestionOrder_swap s t]
        intro hgt
        exact hge (beq_iff_eq.mpr (Ordering.swap_eq_gt.mp hgt))
      refine List.pairwise_cons.mpr ⟨?_, List.pairwise_cons.mpr ⟨htl, hl⟩⟩
      intro u hu
      rcases List.mem_cons.mp hu with rfl | hu
      · exact hts
      · exact h.le_trans (hp u hu) ht hs (htl u hu) hts

theorem sortSuggestions_pairwise (h : LinearOn suggestionOrder p) {l : List Suggestion}
    (hp : ∀ s ∈ l, p s) :
    (sortSuggestions l).Pairwise fun s t => suggestionOrder s t ≠ .gt := by
  suffices hfold : ∀ sorted : List Suggestion, (∀ s ∈ sorted, p s) →
      (sorted.Pairwise fun a b => suggestionOrder b a ≠ .gt) →
      (l.foldl (fun sorted s => insertDescending s sorted) sorted).Pairwise
        fun a b => suggestionOrder b a ≠ .gt from
    List.pairwise_reverse.mpr (hfold [] (fun _ hs => nomatch hs) .nil)
  induction l with
  | nil => exact fun _ _ hsorted => hsorted
  | cons s l ih =>
    obtain ⟨hs, hp⟩ := List.forall_mem_cons.mp hp
    intro sorted hps hsorted
    refine ih hp _ ?_ (insertDescending_pairwise h hs hps hsorted)
    intro t ht
    rcases List.mem_cons.mp ((insertDescending_perm s sorted).mem_iff.mp ht) with rfl | ht
    · exact hs
    · exact hps t ht

/-- A list in which no suggestion is less than its predecessor stays as it is. -/
theorem sortSuggestions_of_isChain {l : List Suggestion}
    (h : l.IsChain fun s t => suggestionOrder t s ≠ .lt) : sortSuggestions l = l := by
  suffices hfold : ∀ (l : List Suggestion) (s : Suggestion) (sorted : List Suggestion),
      (s :: l).IsChain (fun s t => suggestionOrder t s ≠ .lt) →
      l.foldl (fun sorted s => insertDescending s sorted) (s :: sorted) =
        l.reverse ++ s :: sorted by
    cases l with
    | nil => rfl
    | cons s l =>
      change (l.foldl (fun sorted s => insertDescending s sorted) [s]).reverse = s :: l
      rw [hfold l s [] h, List.reverse_append, List.reverse_reverse]
      rfl
  intro l
  induction l with
  | nil => exact fun _ _ _ => rfl
  | cons t l ih =>
    intro s sorted h
    obtain ⟨hst, h⟩ := List.isChain_cons_cons.mp h
    have hinsert : insertDescending t (s :: sorted) = t :: s :: sorted := by
      rw [insertDescending, if_neg fun hlt => hst (beq_iff_eq.mp hlt)]
    rw [List.foldl_cons, hinsert, ih t (s :: sorted) h, List.reverse_cons, List.append_assoc]
    rfl

end Sorting

section Repeats

theorem mem_dropRepeats {l : List Suggestion} {s : Suggestion} :
    s ∈ dropRepeats l ↔ s ∈ l := by
  fun_induction dropRepeats l with
  | case1 a rest ih => simp_all
  | case2 a b rest hab ih => simp_all
  | case3 => rfl

theorem dropRepeats_of_isChain {l : List Suggestion} (h : l.IsChain (· ≠ ·)) :
    dropRepeats l = l := by
  fun_induction dropRepeats l with
  | case1 a rest ih => exact absurd rfl (List.isChain_cons_cons.mp h).1
  | case2 a b rest hab ih => rw [ih (List.isChain_cons_cons.mp h).2]
  | case3 => rfl

theorem dropRepeats_pairwise {p : Suggestion → Prop} (h : LinearOn suggestionOrder p)
    {l : List Suggestion} (hp : ∀ s ∈ l, p s)
    (hl : l.Pairwise fun s t => suggestionOrder s t ≠ .gt) :
    (dropRepeats l).Pairwise fun s t => suggestionOrder s t = .lt := by
  fun_induction dropRepeats l with
  | case1 a rest ih => exact ih (List.forall_mem_cons.mp hp).2 (List.pairwise_cons.mp hl).2
  | case2 a b rest hab ih =>
    obtain ⟨ha, hp⟩ := List.forall_mem_cons.mp hp
    obtain ⟨hal, hl⟩ := List.pairwise_cons.mp hl
    refine List.pairwise_cons.mpr ⟨?_, ih hp hl⟩
    have hb := hp b List.mem_cons_self
    have hlt : suggestionOrder a b = .lt :=
      (h.lt_or_eq ha hb (hal b List.mem_cons_self)).resolve_right hab
    intro t ht
    rcases List.mem_cons.mp (mem_dropRepeats.mp ht) with rfl | htr
    · exact hlt
    · have hpt := hp t (List.mem_cons_of_mem _ htr)
      rcases h.lt_or_eq hb hpt ((List.pairwise_cons.mp hl).1 t htr) with hbt | rfl
      · exact h.lt_trans ha hb hpt hlt hbt
      · exact hlt
  | case3 l hshort =>
    match l, hshort with
    | [], _ => exact .nil
    | [a], _ => exact List.pairwise_singleton _ _
    | a :: b :: rest, hshort => exact absurd rfl (hshort a b rest)

end Repeats

theorem suggest_apply (m : Memory) (labels : ForeignKey) (pattern : LikePattern) (limit : Int) :
    Store.suggest labels pattern limit m = (.ok (m.suggest labels pattern limit), m) := rfl

theorem suggest_pairwise {keys : String → Value → Prop}
    (h : ∀ label, LinearOn keyOrder (keys label)) {m : Memory} {labels : ForeignKey}
    {pattern : LikePattern} (hkeys : ∀ s ∈ m.offers labels pattern, keys s.label s.key)
    (limit : Int) :
    (m.suggest labels pattern limit).Pairwise fun s t => suggestionOrder s t = .lt := by
  have hlinear := linearOn_suggestion h
  have hsorted := sortSuggestions_pairwise hlinear hkeys
  have hkeys' : ∀ s ∈ sortSuggestions (m.offers labels pattern), keys s.label s.key :=
    fun s hs => hkeys s ((sortSuggestions_perm _).mem_iff.mp hs)
  exact (dropRepeats_pairwise hlinear hkeys' hsorted).sublist (List.take_sublist _ _)

section Items

def itemLabels : ForeignKey := ⟨"items", "key", "label"⟩

/-- The pattern that every label satisfies. -/
def anyLabel : LikePattern := ⟨.start, ""⟩

def item (label : String) (id : Int64) (key : Value) : Row :=
  ⟨id, (Dict.empty.insert "label" (.text label)).insert "key" key⟩

/-- A store with one table, whose rows have one label and the given keys, the last row first. -/
def itemsOf (label : String) : List Value → Memory
  | [] => {}
  | key :: keys => (itemsOf label keys).insert ⟨"items", "id"⟩ (item label (.ofNat keys.length) key)

theorem itemsOf_built (label : String) (keys : List Value) : (itemsOf label keys).Built := by
  induction keys with
  | nil => exact .empty
  | cons key keys ih => exact ih.insert _ _

theorem offers_insert_item {m : Memory} (label : String) (key : Value) {id : Int64}
    (hid : ∀ e ∈ (m.rows "items").toList, e.1 < id) :
    (m.insert ⟨"items", "id"⟩ (item label id key)).offers itemLabels anyLabel =
      m.offers itemLabels anyLabel ++ [⟨key, label⟩] := by
  let row : Row := ⟨id, (item label id key).cells.insert "id" (.integer id)⟩
  have hkey : row.get "key" = key := by
    rw [Row.get, Dict.get?_insert_of_ne _ _ (by decide), item, Dict.get?_insert_self]
    rfl
  have hlabel : row.get "label" = .text label := by
    rw [Row.get, Dict.get?_insert_of_ne _ _ (by decide), item,
      Dict.get?_insert_of_ne _ _ (by decide), Dict.get?_insert_self]
    rfl
  have hvalues : ((m.insert ⟨"items", "id"⟩ (item label id key)).rows "items").values =
      (m.rows "items").values ++ [row] := by
    have hput : Dict.put id row (m.rows "items").toList = (m.rows "items").toList ++ [(id, row)] :=
      Dict.put_of_forall_gt fun e he => Std.compare_eq_gt.mpr (hid e he)
    rw [insert, rows_insert_table, if_pos rfl]
    change (Dict.put id row (m.rows "items").toList).map (·.2) = _
    rw [hput, List.map_append]
    rfl
  have hmatch :
      (!(row.get "label").isNull && anyLabel.accepts (row.get "label").display) = true := by
    rw [hlabel]
    rfl
  unfold offers
  change ((((m.insert ⟨"items", "id"⟩ (item label id key)).rows "items").values.filter _).map _) = _
  rw [hvalues, List.filter_append, List.map_append, List.filter_cons_of_pos]
  · change _ ++ [Suggestion.mk (row.get "key") (row.get "label").display] = _
    rw [hkey, hlabel]
    rfl
  · exact hmatch

theorem lt_of_mem_itemsOf (label : String) {keys : List Value}
    (hlength : keys.length ≤ 0x8000000000000000) :
    ∀ e ∈ ((itemsOf label keys).rows "items").toList, e.1.toInt < keys.length := by
  induction keys with
  | nil => exact fun e he => nomatch he
  | cons key keys ih =>
    rw [List.length_cons] at hlength ⊢
    intro e he
    rw [itemsOf, insert, rows_insert_table, if_pos rfl] at he
    rcases Dict.mem_insert he with rfl | he
    · change (Int64.ofNat keys.length).toInt < _
      rw [Int64.toInt_ofNat_of_lt (by omega)]
      omega
    · have hlt := ih (by omega) e he
      omega

theorem offers_itemsOf (label : String) {keys : List Value}
    (hlength : keys.length ≤ 0x8000000000000000) :
    (itemsOf label keys).offers itemLabels anyLabel =
      (keys.map fun key => ⟨key, label⟩).reverse := by
  induction keys with
  | nil => rfl
  | cons key keys ih =>
    rw [List.length_cons] at hlength
    rw [itemsOf, offers_insert_item, ih (by omega), List.map_cons, List.reverse_cons]
    intro e he
    have hlt := lt_of_mem_itemsOf label (by omega) e he
    rw [Int64.lt_iff_toInt_lt, Int64.toInt_ofNat_of_lt (by omega)]
    exact hlt

/-- Keys none of which is less than its predecessor or equal to it are all suggested. -/
theorem suggest_itemsOf (label : String) {keys : List Value}
    (hlength : keys.length ≤ 0x8000000000000000)
    (hkeys : keys.IsChain fun b a => keyOrder b a ≠ .lt ∧ a ≠ b) :
    (itemsOf label keys).suggest itemLabels anyLabel keys.length =
      (keys.map fun key => ⟨key, label⟩).reverse := by
  have hchain : ((keys.map fun key => Suggestion.mk key label).reverse).IsChain
      fun s t => suggestionOrder t s ≠ .lt ∧ s ≠ t := by
    rw [List.isChain_reverse, List.isChain_map]
    refine hkeys.imp ?_
    intro b a hab
    rw [suggestionOrder_eq, Std.ReflOrd.compare_self]
    exact ⟨hab.1, fun h => hab.2 (congrArg Suggestion.key h)⟩
  rw [suggest, offers_itemsOf label hlength,
    sortSuggestions_of_isChain (hchain.imp fun _ _ h => h.1),
    dropRepeats_of_isChain (hchain.imp fun _ _ h => h.2), List.take_of_length_le (by simp)]

end Items

/-- No table repeats a suggestion if the keys of its rows are admissible for their labels. -/
def SuggestsDistinct (keys : String → Value → Prop) : Prop :=
  ∀ (m : Memory) (labels : ForeignKey) (pattern : LikePattern) (limit : Int), m.Built →
    (∀ s ∈ m.offers labels pattern, keys s.label s.key) →
    ∃ found, Store.suggest labels pattern limit m = (.ok found, m) ∧ found.Nodup

namespace SuggestsDistinct

variable {keys : String → Value → Prop}

theorem nodup (h : SuggestsDistinct keys) {label : String} {found : List Value}
    (hlength : found.length ≤ 0x8000000000000000) (hkeys : ∀ key ∈ found, keys label key)
    (hchain : found.IsChain fun b a => keyOrder b a ≠ .lt ∧ a ≠ b) : found.Nodup := by
  have hoffers : ∀ s ∈ (itemsOf label found).offers itemLabels anyLabel, keys s.label s.key := by
    rw [offers_itemsOf label hlength]
    intro s hs
    obtain ⟨key, hkey, rfl⟩ := List.mem_map.mp (List.mem_reverse.mp hs)
    exact hkeys key hkey
  obtain ⟨suggested, hsuggest, hnodup⟩ :=
    h _ itemLabels anyLabel found.length (itemsOf_built label found) hoffers
  rw [suggest_apply, suggest_itemsOf label hlength hchain] at hsuggest
  obtain rfl := Except.ok.inj (congrArg Prod.fst hsuggest)
  exact List.Nodup.of_map _ ((List.reverse_perm _).nodup_iff.mp hnodup)

theorem eq_of_eq (h : SuggestsDistinct keys) {label : String} {a b : Value} (ha : keys label a)
    (hb : keys label b) (hab : keyOrder a b = .eq) : a = b := by
  by_contra hne
  have hba : keyOrder b a = .eq := by rw [keyOrder_swap, hab]; rfl
  have hkeys : ∀ key ∈ [a, b, a], keys label key := by simp [ha, hb]
  have hnodup : [a, b, a].Nodup := by
    apply h.nodup _ hkeys
    · simp [hab, hba, hne, Ne.symm hne]
    · simp
  simp at hnodup

theorem lt_trans (h : SuggestsDistinct keys) {label : String} {a b c : Value}
    (ha : keys label a) (hb : keys label b) (hc : keys label c) (hab : keyOrder a b = .lt)
    (hbc : keyOrder b c = .lt) : keyOrder a c = .lt := by
  by_contra hac
  have hba : keyOrder b a = .gt := by rw [keyOrder_swap, hab]; rfl
  have hcb : keyOrder c b = .gt := by rw [keyOrder_swap, hbc]; rfl
  have hne {x y : Value} (hxy : keyOrder x y = .lt) : x ≠ y := by
    rintro rfl
    rw [keyOrder_self] at hxy
    cases hxy
  have hca : c ≠ a := by
    rintro rfl
    rw [hbc] at hba
    cases hba
  have hkeys : ∀ key ∈ [a, c, b, a], keys label key := by simp [ha, hb, hc]
  have hnodup : [a, c, b, a].Nodup := by
    apply h.nodup _ hkeys
    · simp [hac, hca, hcb, hba, hne hab, hne hbc]
    · simp
  simp at hnodup

end SuggestsDistinct

/-- Suggestions are distinct in every table with admissible keys exactly if the keys that are
admissible for one label are linearly ordered. -/
theorem suggest_nodup_iff (keys : String → Value → Prop) :
    SuggestsDistinct keys ↔ ∀ label, LinearOn keyOrder (keys label) := by
  constructor
  · exact fun h label => ⟨h.eq_of_eq, h.lt_trans⟩
  · intro h m labels pattern limit _ hkeys
    refine ⟨_, suggest_apply _ _ _ _, (suggest_pairwise h hkeys limit).imp ?_⟩
    rintro s t hlt rfl
    rw [suggestionOrder_self] at hlt
    cases hlt

/-- The integer keys of the sample are suggested once each. -/
theorem suggest_nodup_sample :
    (∀ s ∈ (itemsOf "x" [.integer 3, .integer 4, .integer 3]).offers itemLabels anyLabel,
      ∃ n, s.key = .integer n) ∧
    ∃ found, Store.suggest itemLabels anyLabel 50
        (itemsOf "x" [.integer 3, .integer 4, .integer 3]) =
      (.ok found, itemsOf "x" [.integer 3, .integer 4, .integer 3]) ∧ found.Nodup := by
  have hkeys : ∀ s ∈ (itemsOf "x" [.integer 3, .integer 4, .integer 3]).offers itemLabels anyLabel,
      ∃ n, s.key = .integer n := by
    rw [offers_itemsOf "x" (by simp)]
    simp
  exact ⟨hkeys, (suggest_nodup_iff fun _ v => ∃ n, v = .integer n).mpr
    (fun _ => linearOn_integer) _ itemLabels anyLabel 50 (itemsOf_built _ _) hkeys⟩

/-- A row without a key between two rows with one key keeps their suggestions apart. -/
theorem suggest_repeats :
    let m := itemsOf "x" [.integer 1, .null, .integer 1]
    m.Built ∧ ∃ found, Store.suggest itemLabels ⟨.anywhere, ""⟩ 50 m = (.ok found, m) ∧
      ¬ found.Nodup :=
  ⟨itemsOf_built _ _, [⟨.integer 1, "x"⟩, ⟨.null, "x"⟩, ⟨.integer 1, "x"⟩], rfl, by decide⟩

end TableSearch.Memory
