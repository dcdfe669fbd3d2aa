import TableSearch.Dict

/-!
# Looking up in finite maps

An entry list with strictly increasing keys holds at most one entry for a key, so looking up is
membership. Filtering, erasing and overlaying are described by what a look-up gives afterwards.
-/
namespace TableSearch.Dict

variable {κ : Type} [Ord κ] {α : Type}

@[simp] theorem toList_filter (d : Dict κ α) (p : κ → α → Bool) :
    (d.filter p).toList = d.toList.filter fun e => p e.1 e.2 := rfl

theorem pairwise_keys (d : Dict κ α) : d.keys.Pairwise fun j k => compare j k = .lt :=
  List.pairwise_map.mpr d.sorted

theorem isEmpty_iff {d : Dict κ α} : d.isEmpty = true ↔ d.toList = [] := by
  simp [isEmpty]

theorem get?_of_isEmpty {d : Dict κ α} (h : d.isEmpty = true) (k : κ) : d.get? k = none := by
  unfold get?
  rw [isEmpty_iff.mp h]
  rfl

theorem filter_congr {d : Dict κ α} {p q : κ → α → Bool}
    (h : ∀ e ∈ d.toList, p e.1 e.2 = q e.1 e.2) : d.filter p = d.filter q := by
  simp only [filter, List.filter_congr h]

theorem filter_of_forall {d : Dict κ α} {p : κ → α → Bool}
    (h : ∀ e ∈ d.toList, p e.1 e.2 = true) : d.filter p = d := by
  cases d with
  | mk l hl => simp only [filter, List.filter_eq_self.mpr h]

def mapValues (d : Dict κ α) (f : α → α) : Dict κ α :=
  ⟨d.toList.map fun e => (e.1, f e.2), List.pairwise_map.mpr d.sorted⟩

@[simp] theorem toList_mapValues (d : Dict κ α) (f : α → α) :
    (d.mapValues f).toList = d.toList.map fun e => (e.1, f e.2) := rfl

theorem values_mapValues (d : Dict κ α) (f : α → α) :
    (d.mapValues f).values = d.values.map f := by
  simp [values]

theorem size_mapValues (d : Dict κ α) (f : α → α) : (d.mapValues f).size = d.size := by
  simp [size]

theorem mapValues_mapValues (d : Dict κ α) (f g : α → α) :
    (d.mapValues f).mapValues g = d.mapValues (g ∘ f) := by
  simp [mapValues]

theorem mapValues_congr {d : Dict κ α} {f g : α → α} (h : ∀ e ∈ d.toList, f e.2 = g e.2) :
    d.mapValues f = d.mapValues g := by
  have hlist : d.toList.map (fun e => (e.1, f e.2)) = d.toList.map fun e => (e.1, g e.2) :=
    List.map_congr_left fun e he => by rw [h e he]
  simp only [mapValues, hlist]

theorem mapValues_of_forall {d : Dict κ α} {f : α → α} (h : ∀ e ∈ d.toList, f e.2 = e.2) :
    d.mapValues f = d := by
  rw [mapValues_congr (g := id) h]
  simp [mapValues]

theorem get?_mapValues (d : Dict κ α) (f : α → α) (k : κ) :
    (d.mapValues f).get? k = (d.get? k).map f := by
  unfold get?
  rw [toList_mapValues]
  induction d.toList with
  | nil => rfl
  | cons e l ih =>
    obtain ⟨j, b⟩ := e
    simp only [List.map_cons, find?]
    split
    · rfl
    · exact ih

theorem put_of_forall_gt {k : κ} {a : α} {l : List (κ × α)} (h : ∀ e ∈ l, compare k e.1 = .gt) :
    put k a l = l ++ [(k, a)] := by
  induction l with
  | nil => rfl
  | cons e l ih =>
    obtain ⟨he, hl⟩ := List.forall_mem_cons.mp h
    rw [put, he, ih hl]
    rfl

variable [Std.LawfulEqOrd κ]

theorem mem_of_find?_eq_some {k : κ} {a : α} {l : List (κ × α)} (h : find? k l = some a) :
    (k, a) ∈ l := by
  induction l with
  | nil => simp [find?] at h
  | cons e l ih =>
    obtain ⟨j, b⟩ := e
    simp only [find?] at h
    split at h
    · rename_i he
      have hk : k = j := Std.compare_eq_iff_eq.mp he
      have ha : b = a := Option.some.inj h
      simp [hk, ha]
    · exact List.mem_cons_of_mem _ (ih h)

theorem find?_eq_some_of_mem {k : κ} {a : α} {l : List (κ × α)}
    (hl : l.Pairwise fun a b => compare a.1 b.1 = .lt) (h : (k, a) ∈ l) :
    find? k l = some a := by
  induction l with
  | nil => simp at h
  | cons e l ih =>
    obtain ⟨j, b⟩ := e
    obtain ⟨hj, hl⟩ := List.pairwise_cons.mp hl
    rcases List.mem_cons.mp h with he | h
    · cases he
      simp [find?]
    · have hlt : compare j k = .lt := hj _ h
      have hne : compare k j ≠ .eq := by
        intro he
        have hk : k = j := Std.compare_eq_iff_eq.mp he
        rw [hk, Std.compare_eq_iff_eq.mpr rfl] at hlt
        cases hlt
      simp only [find?, if_neg hne]
      exact ih hl h

theorem get?_eq_some_iff {d : Dict κ α} {k : κ} {a : α} :
    d.get? k = some a ↔ (k, a) ∈ d.toList :=
  ⟨mem_of_find?_eq_some, find?_eq_some_of_mem d.sorted⟩

theorem mem_keys_iff {d : Dict κ α} {k : κ} : k ∈ d.keys ↔ (d.get? k).isSome := by
  rw [keys, List.mem_map, Option.isSome_iff_exists]
  constructor
  · rintro ⟨e, he, rfl⟩
    exact ⟨e.2, get?_eq_some_iff.mpr he⟩
  · rintro ⟨a, ha⟩
    exact ⟨(k, a), get?_eq_some_iff.mp ha, rfl⟩

theorem nodup_keys (d : Dict κ α) : d.keys.Nodup := by
  refine d.pairwise_keys.imp fun hlt he => ?_
  rw [Std.compare_eq_iff_eq.mpr he] at hlt
  cases hlt

theorem get?_filter (d : Dict κ α) (p : κ → α → Bool) (k : κ) :
    (d.filter p).get? k = (d.get? k).filter (p k) := by
  apply Option.ext
  intro a
  rw [get?_eq_some_iff, Option.filter_eq_some_iff, get?_eq_some_iff]
  simp

theorem get?_erase_self (d : Dict κ α) (k : κ) : (d.erase k).get? k = none := by
  rw [erase, get?_filter, Option.filter_eq_none_iff]
  simp

theorem get?_erase_of_ne (d : Dict κ α) {j k : κ} (h : j ≠ k) : (d.erase k).get? j = d.get? j := by
  have hne : (compare k j != .eq) = true := by
    rw [bne_iff_ne, ne_eq, Std.compare_eq_iff_eq]
    exact h.symm
  rw [erase, get?_filter, hne]
  cases d.get? j <;> rfl

theorem erase_of_get?_eq_none {d : Dict κ α} {k : κ} (h : d.get? k = none) : d.erase k = d := by
  refine filter_of_forall ?_
  intro e he
  rw [bne_iff_ne, ne_eq, Std.compare_eq_iff_eq]
  intro hk
  rw [hk, get?_eq_some_iff.mpr he] at h
  cases h

variable [Std.TransOrd κ]

theorem get?_insert_self (d : Dict κ α) (k : κ) (a : α) : (d.insert k a).get? k = some a := by
  rw [get?_insert, if_pos (Std.compare_eq_iff_eq.mpr rfl)]

theorem get?_insert_of_ne (d : Dict κ α) {j k : κ} (a : α) (h : j ≠ k) :
    (d.insert k a).get? j = d.get? j := by
  rw [get?_insert, if_neg fun he => h (Std.compare_eq_iff_eq.mp he)]

theorem get?_foldl_insert (d : Dict κ α) {l : List (κ × α)}
    (hl : l.Pairwise fun a b => compare a.1 b.1 = .lt) (k : κ) :
    (l.foldl (fun d e => d.insert e.1 e.2) d).get? k = (find? k l).or (d.get? k) := by
  induction l generalizing d with
  | nil => simp [find?]
  | cons e l ih =>
    obtain ⟨j, b⟩ := e
    obtain ⟨hj, hl⟩ := List.pairwise_cons.mp hl
    rw [List.foldl_cons, ih _ hl]
    by_cases h : k = j
    · subst k
      have hnone : find? j l = none := by
        rw [Option.eq_none_iff_forall_ne_some]
        intro a ha
        have hlt := hj _ (mem_of_find?_eq_some ha)
        simp at hlt
      simp [find?, hnone, get?_insert_self]
    · have hc : compare k j ≠ .eq := fun he => h (Std.compare_eq_iff_eq.mp he)
      rw [get?_insert_of_ne _ _ h, find?, if_neg hc]

omit [Std.LawfulEqOrd κ] [Std.TransOrd κ] in
theorem find?_append (k : κ) (l l' : List (κ × α)) :
    find? k (l ++ l') = (find? k l).or (find? k l') := by
  induction l with
  | nil => simp [find?]
  | cons e l ih =>
    simp only [List.cons_append, find?, ih]
    split <;> simp

/-- Of two entries with one key the later counts. -/
theorem get?_insertAll (d : Dict κ α) (l : List (κ × α)) (k : κ) :
    (d.insertAll l).get? k = (find? k l.reverse).or (d.get? k) := by
  induction l generalizing d with
  | nil => simp [insertAll, find?]
  | cons e l ih =>
    change ((d.insert e.1 e.2).insertAll l).get? k = _
    rw [ih, get?_insert, List.reverse_cons, find?_append, Option.or_assoc]
    by_cases h : compare k e.1 = .eq
    · simp [find?, h]
    · simp [find?, h]

theorem get?_ofList (l : List (κ × α)) (k : κ) : (ofList l).get? k = find? k l.reverse := by
  rw [ofList, get?_insertAll, get?_empty, Option.or_none]

theorem mem_of_get?_ofList {l : List (κ × α)} {k : κ} {a : α} (h : (ofList l).get? k = some a) :
    (k, a) ∈ l := by
  rw [get?_ofList] at h
  exact List.mem_reverse.mp (mem_of_find?_eq_some h)

theorem get?_insertAll_toList (d e : Dict κ α) (k : κ) :
    (d.insertAll e.toList).get? k = (e.get? k).or (d.get? k) :=
  get?_foldl_insert d e.sorted k

theorem put_eq_map {k : κ} {a : α} {l : List (κ × α)}
    (hl : l.Pairwise fun a b => compare a.1 b.1 = .lt) (hk : (find? k l).isSome = true)
    {f : α → α} (hself : ∀ b, (k, b) ∈ l → f b = a)
    (hother : ∀ e ∈ l, e.1 ≠ k → f e.2 = e.2) :
    put k a l = l.map fun e => (e.1, f e.2) := by
  induction l with
  | nil => cases hk
  | cons e l ih =>
    obtain ⟨j, b⟩ := e
    obtain ⟨hj, hl⟩ := List.pairwise_cons.mp hl
    have hother' : ∀ e ∈ l, e.1 ≠ k → f e.2 = e.2 := fun e he =>
      hother e (List.mem_cons_of_mem _ he)
    by_cases h : k = j
    · subst h
      have hrest : ∀ e ∈ l, (e.1, f e.2) = e := by
        intro e he
        have hlt : compare k e.1 = .lt := hj e he
        have hne : e.1 ≠ k := by
          rintro rfl
          simp at hlt
        rw [hother' e he hne]
      have heq : compare k k = .eq := Std.compare_eq_iff_eq.mpr rfl
      rw [put, heq, List.map_cons, hself b List.mem_cons_self, List.map_congr_left hrest,
        List.map_id']
    · have hne : compare k j ≠ .eq := fun he => h (Std.compare_eq_iff_eq.mp he)
      have hfind : find? k ((j, b) :: l) = find? k l := by rw [find?, if_neg hne]
      rw [hfind] at hk
      obtain ⟨c, hc⟩ := Option.isSome_iff_exists.mp hk
      have hlt : compare j k = .lt := hj _ (mem_of_find?_eq_some hc)
      have hgt : compare k j = .gt := Std.OrientedCmp.gt_of_lt hlt
      have hself' : ∀ b, (k, b) ∈ l → f b = a := fun b hb =>
        hself b (List.mem_cons_of_mem _ hb)
      rw [put, hgt, List.map_cons, hother (j, b) List.mem_cons_self fun he => h he.symm]
      dsimp only
      rw [ih hl hk hself' hother']

theorem insert_eq_mapValues {d : Dict κ α} {k : κ} {a : α} (hk : (d.get? k).isSome = true)
    {f : α → α} (hself : ∀ b, d.get? k = some b → f b = a)
    (hother : ∀ e ∈ d.toList, e.1 ≠ k → f e.2 = e.2) : d.insert k a = d.mapValues f := by
  have hput := put_eq_map (a := a) d.sorted hk
    (fun b hb => hself b (get?_eq_some_iff.mpr hb)) hother
  simp only [insert, mapValues, hput]

theorem insert_of_get?_eq_some {d : Dict κ α} {k : κ} {a : α} (h : d.get? k = some a) :
    d.insert k a = d := by
  have hself : d.insert k a = d.mapValues id := by
    refine insert_eq_mapValues (Option.isSome_iff_exists.mpr ⟨a, h⟩) ?_ fun _ _ _ => rfl
    intro b hb
    exact Option.some.inj (hb.symm.trans h)
  rw [hself, mapValues_of_forall fun _ _ => rfl]

theorem mem_insert {d : Dict κ α} {k : κ} {a : α} {e : κ × α} (h : e ∈ (d.insert k a).toList) :
    e = (k, a) ∨ e ∈ d.toList :=
  mem_put h

end TableSearch.Dict
