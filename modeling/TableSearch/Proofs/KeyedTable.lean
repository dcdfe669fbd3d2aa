import TableSearch.Proofs.Dict
import TableSearch.Sql.Table

/-!
# Tables with an integer primary key

Every row of such a table is filed under its cell in the key column. Changes of a row are written
into the columns that their names resolve to, up to the case of letters; a change that resolves to
the key column files the row under another number. Main statement: a change of one row leaves the
other rows and the other cells of this one as they were, and the rows keep their numbers exactly if
no change takes the key to another integer (`Table.Changed.kept`, `Table.Changed.contains_iff`).
-/
namespace TableSearch

theorem Text.eqIgnoringAsciiCase_iff {a b : String} :
    Text.eqIgnoringAsciiCase a b = true ↔ Text.foldAscii a = Text.foldAscii b := beq_iff_eq

theorem Dict.filter_key {κ : Type} [Ord κ] [Std.LawfulEqOrd κ] {α : Type} {d : Dict κ α} {k : κ}
    {p : κ × α → Bool} (hp : ∀ e ∈ d.toList, p e = true ↔ e.1 = k) :
    d.toList.filter p = ((d.get? k).map fun a => (k, a)).toList := by
  obtain ⟨l, hl⟩ := d
  unfold get?
  dsimp only at hp ⊢
  induction l with
  | nil => rfl
  | cons e l ih =>
    obtain ⟨j, a⟩ := e
    obtain ⟨hj, hl⟩ := List.pairwise_cons.mp hl
    obtain ⟨hhead, hrest⟩ := List.forall_mem_cons.mp hp
    by_cases h : k = j
    · subst h
      have hnone : l.filter p = [] := by
        rw [List.filter_eq_nil_iff]
        intro e he hpe
        have hlt := hj e he
        rw [(hrest e he).mp hpe] at hlt
        simp at hlt
      rw [List.filter_cons_of_pos (hhead.mpr rfl), hnone]
      simp [find?]
    · have hne : compare k j ≠ .eq := fun he => h (Std.compare_eq_iff_eq.mp he)
      rw [List.filter_cons_of_neg fun hpe => h (hhead.mp hpe).symm, find?, if_neg hne]
      exact ih hl hrest

namespace Sql.Table

/-- The position of the column that a name writes to. The number of a row is its key. -/
def target? (t : Table) (name : String) : Option Nat :=
  match t.resolve? name with
  | some (.column i) => some i
  | some .number => t.keyIndex?
  | some (.constant _) => none
  | none => none

/-- A table whose column at `k` is an integer primary key. -/
structure Keyed (t : Table) (k : Nat) : Prop where
  distinct : t.columns.Pairwise fun a b => Text.eqIgnoringAsciiCase a.name b.name = false
  key : t.keyIndex? = some k
  integer : t.affinity (.column k) = .integer
  width {n : Int64} {cells : List Cell} (h : t.rows.get? n = some cells) :
    cells.length = t.columns.length
  filed {n : Int64} {cells : List Cell} (h : t.rows.get? n = some cells) :
    cells.getD k .null = .integer n

/-- Write a value into the column that a name resolves to, as the column prefers it. -/
def put (t : Table) (cells : List Cell) (change : String × Value) : List Cell :=
  match t.target? change.1 with
  | some i => cells.set i ((t.affinity (.column i)).store (.ofValue change.2))
  | none => cells

def changed (t : Table) (changes : Changes) (cells : List Cell) : List Cell :=
  changes.toList.foldl t.put cells

/-- What changes write into the key column, in their order. -/
def keyCells (t : Table) (changes : Changes) : List Cell :=
  changes.toList.filterMap fun (name, v) =>
    if t.target? name = t.keyIndex? then some (Affinity.integer.store (.ofValue v)) else none

/-- The number that changes file a row under. -/
def destination (t : Table) (changes : Changes) (id : Int64) : Int64 :=
  match (t.keyCells changes).getLast? with
  | some (.integer n) => n
  | _ => id

section Resolving

variable {t : Table} {k i : Nat} {c : ColumnDef} {name : String}

theorem resolve?_cases (t : Table) (name : String) :
    t.resolve? name = none ∨ t.resolve? name = some .number ∨
      ∃ i, t.resolve? name = some (.column i) := by
  unfold resolve?
  split
  · exact .inr (.inr ⟨_, rfl⟩)
  · split
    · exact .inr (.inl rfl)
    · exact .inl rfl

theorem Keyed.resolve?_eq (h : t.Keyed k) (hc : t.columns[i]? = some c)
    (hname : Text.eqIgnoringAsciiCase c.name name = true) : t.resolve? name = some (.column i) := by
  obtain ⟨hi, rfl⟩ := List.getElem?_eq_some_iff.mp hc
  have hfind : (t.columns.findIdx? fun c => Text.eqIgnoringAsciiCase c.name name) = some i := by
    rw [List.findIdx?_eq_some_iff_getElem]
    refine ⟨hi, hname, fun j hj hother => ?_⟩
    have hne := List.pairwise_iff_getElem.mp h.distinct j i (Nat.lt_trans hj hi) hi hj
    rw [Text.eqIgnoringAsciiCase_iff] at hname hother
    rw [Bool.eq_false_iff, ne_eq, Text.eqIgnoringAsciiCase_iff] at hne
    exact hne (hother.trans hname.symm)
  rw [resolve?, hfind]

theorem target?_of_resolve? (h : t.resolve? name = some (.column i)) : t.target? name = some i := by
  rw [target?, h]

theorem Keyed.lt_length (h : t.Keyed k) : k < t.columns.length :=
  (List.findIdx?_eq_some_iff_getElem.mp h.key).1

end Resolving

section Changing

variable {t : Table} {k i : Nat} {changes : Changes} {cells : List Cell}

@[simp] theorem length_put (t : Table) (cells : List Cell) (change : String × Value) :
    (t.put cells change).length = cells.length := by
  unfold put
  split <;> simp

@[simp] theorem length_changed (t : Table) (changes : Changes) (cells : List Cell) :
    (t.changed changes cells).length = cells.length := by
  unfold changed
  induction changes.toList generalizing cells with
  | nil => rfl
  | cons change rest ih => rw [List.foldl_cons, ih, length_put]

theorem getElem?_changed (h : ∀ name, changes.contains name = true → t.target? name ≠ some i) :
    (t.changed changes cells)[i]? = cells[i]? := by
  have htarget : ∀ e ∈ changes.toList, t.target? e.1 ≠ some i := fun e he =>
    h e.1 (Option.isSome_iff_exists.mpr ⟨e.2, Dict.get?_eq_some_iff.mpr he⟩)
  unfold changed
  generalize changes.toList = l at htarget ⊢
  induction l generalizing cells with
  | nil => rfl
  | cons e rest ih =>
    obtain ⟨hne, hrest⟩ := List.forall_mem_cons.mp htarget
    rw [List.foldl_cons, ih hrest, put]
    split
    · rename_i j hj
      exact List.getElem?_set_ne fun hji : j = i => hne (hji ▸ hj)
    · rfl

theorem Keyed.getD_changed (h : t.Keyed k) (hk : k < cells.length) :
    (t.changed changes cells).getD k .null =
      (t.keyCells changes).getLast?.getD (cells.getD k .null) := by
  unfold changed keyCells
  induction changes.toList generalizing cells with
  | nil => rfl
  | cons e rest ih =>
    rw [List.foldl_cons, ih (by rwa [length_put]), put]
    by_cases htarget : t.target? e.1 = some k
    · have hset : (cells.set k ((t.affinity (.column k)).store (.ofValue e.2))).getD k .null =
          Affinity.integer.store (.ofValue e.2) := by
        rw [h.integer, List.getD_eq_getElem?_getD, List.getElem?_set_self hk, Option.getD_some]
      simp only [htarget, h.key, List.filterMap_cons, if_true, List.getLast?_cons,
        Option.getD_some, hset]
    · have hput : (match t.target? e.1 with
          | some i => cells.set i ((t.affinity (.column i)).store (.ofValue e.2))
          | none => cells).getD k .null = cells.getD k .null := by
        split
        · rename_i j hj
          have hjk : j ≠ k := fun hjk => htarget (hjk ▸ hj)
          rw [List.getD_eq_getElem?_getD, List.getElem?_set_ne hjk, List.getD_eq_getElem?_getD]
        · rfl
      simp only [hput, h.key, List.filterMap_cons, htarget, if_false]

/-- A changed row is filed under the number that the changes give it. -/
theorem Keyed.eq_destination (h : t.Keyed k) {id n : Int64} (hrow : t.rows.get? id = some cells)
    (hnumber : t.numberOf? id (t.changed changes cells) = some n) :
    n = t.destination changes id := by
  have hk : k < cells.length := h.width hrow ▸ h.lt_length
  rw [numberOf?, h.key] at hnumber
  dsimp only at hnumber
  rw [h.getD_changed hk, h.filed hrow] at hnumber
  unfold destination
  cases hlast : (t.keyCells changes).getLast? with
  | none =>
    rw [hlast] at hnumber
    exact (Option.some.inj hnumber).symm
  | some cell =>
    rw [hlast] at hnumber
    cases cell with
    | integer m => exact (Option.some.inj hnumber).symm
    | null => cases hnumber
    | real x => cases hnumber
    | text bytes => cases hnumber
    | blob bytes => cases hnumber

theorem Keyed.destination_eq (h : t.Keyed k)
    (hother : ∀ name, changes.contains name = true → t.target? name ≠ some k) (id : Int64) :
    t.destination changes id = id := by
  have hnone : t.keyCells changes = [] := by
    unfold keyCells
    rw [List.filterMap_eq_nil_iff]
    intro e he
    have hname : changes.contains e.1 = true :=
      Option.isSome_iff_exists.mpr ⟨e.2, Dict.get?_eq_some_iff.mpr he⟩
    rw [h.key]
    exact if_neg (hother e.1 hname)
  rw [destination, hnone]
  rfl

end Changing

section Updating

variable {t t' : Table} {k : Nat} {id : Int64} {changes : Changes} {cells : List Cell}

def assignments? (t : Table) (changes : List (String × Value)) : Option (List (Reference × Cell)) :=
  changes.mapM fun (name, v) => (t.resolve? name).map fun r => (r, Cell.ofValue v)

/-- Assignments write the changes that they are made from. -/
theorem Keyed.assigned_eq (h : t.Keyed k) {changes : List (String × Value)}
    {assignments : List (Reference × Cell)} (hchanges : t.assignments? changes = some assignments)
    (r : Record) : t.assigned assignments r = { r with cells := changes.foldl t.put r.cells } := by
  unfold assigned
  induction changes generalizing assignments r with
  | nil =>
    cases hchanges
    rfl
  | cons e rest ih =>
    rw [assignments?, List.mapM_cons] at hchanges
    obtain ⟨first, hfirst, hchanges⟩ := Option.bind_eq_some_iff.mp hchanges
    obtain ⟨others, hothers, hchanges⟩ := Option.bind_eq_some_iff.mp hchanges
    cases hchanges
    obtain ⟨reference, hreference, hfirst⟩ := Option.map_eq_some_iff.mp hfirst
    subst hfirst
    rw [List.foldl_cons, List.foldl_cons, ih hothers]
    rcases t.resolve?_cases e.1 with hnone | hnumber | ⟨i, hcolumn⟩
    · rw [hnone] at hreference
      cases hreference
    · rw [hnumber] at hreference
      cases hreference
      simp only [put, target?, hnumber, h.key, h.integer]
    · rw [hcolumn] at hreference
      cases hreference
      simp only [put, target?, hcolumn]

theorem Keyed.hasKey_iff (h : t.Keyed k) (hrow : t.rows.get? n = some cells) (id : Int64) :
    t.hasKey (.column k) (.integer id) ⟨n, cells⟩ = true ↔ n = id := by
  have hcell : (Record.mk n cells).get (.column k) = .integer n := h.filed hrow
  rw [hasKey, hcell, h.integer, beq_iff_eq]
  change some (compare n id == .eq) = some true ↔ n = id
  rw [Option.some.injEq, beq_iff_eq, Std.compare_eq_iff_eq]

/-- The rows with a key: the one that is filed under it. -/
theorem Keyed.filter_hasKey (h : t.Keyed k) (id : Int64) :
    t.records.filter (t.hasKey (.column k) (.integer id)) =
      ((t.rows.get? id).map fun cells => ⟨id, cells⟩).toList := by
  have hfilter := @Dict.filter_key _ _ _ _ t.rows id
    (fun e => t.hasKey (.column k) (.integer id) ⟨e.1, e.2⟩)
    fun e he => h.hasKey_iff (Dict.get?_eq_some_iff.mpr he) id
  rw [records, List.filter_map]
  change (t.rows.toList.filter fun e => t.hasKey (.column k) (.integer id) ⟨e.1, e.2⟩).map _ = _
  rw [hfilter]
  cases t.rows.get? id <;> rfl

/-- What a table is after a change of a row. -/
inductive Changed (t : Table) (id : Int64) (changes : Changes) : Table → Prop
  | mk {cells : List Cell} {n : Int64} (hrow : t.rows.get? id = some cells)
    (hnumber : t.numberOf? id (t.changed changes cells) = some n)
    (hfree : (t.rows.erase id).get? n = none) :
    Changed t id changes { t with rows := (t.rows.erase id).insert n (t.changed changes cells) }

theorem replace?_cases (hrow : t.rows.get? id = some cells) (changes : Changes) :
    t.replace? id ⟨id, t.changed changes cells⟩ = none ∨
      ∃ t', t.Changed id changes t' ∧ t.replace? id ⟨id, t.changed changes cells⟩ = some t' := by
  unfold replace?
  dsimp only
  cases hnumber : t.numberOf? id (t.changed changes cells) with
  | none => exact .inl rfl
  | some n =>
    rw [Option.bind_eq_bind, Option.bind_some]
    split
    · exact .inl rfl
    · rename_i hadmitted
      have hfree : (t.rows.erase id).get? n = none := by
        rw [Bool.or_eq_true, not_or] at hadmitted
        exact Option.not_isSome_iff_eq_none.mp hadmitted.1
      exact .inr ⟨_, .mk hrow hnumber hfree, rfl⟩

/-- Changing the row with a key: there is none, or it is changed, or that would break a constraint.
-/
theorem Keyed.update?_cases (h : t.Keyed k) {assignments : List (Reference × Cell)}
    (hchanges : t.assignments? changes.toList = some assignments) (id : Int64) :
    t.update? assignments (t.hasKey (.column k) (.integer id)) = none ∨
      (t.rows.get? id = none ∧
        t.update? assignments (t.hasKey (.column k) (.integer id)) = some (0, t)) ∨
      ∃ t', t.Changed id changes t' ∧
        t.update? assignments (t.hasKey (.column k) (.integer id)) = some (1, t') := by
  unfold update?
  rw [h.filter_hasKey]
  cases hrow : t.rows.get? id with
  | none => exact .inr (.inl ⟨rfl, rfl⟩)
  | some cells =>
    have hassigned : t.assigned assignments ⟨id, cells⟩ = ⟨id, t.changed changes cells⟩ :=
      h.assigned_eq hchanges _
    simp only [Option.map_some, Option.toList_some, List.foldlM_cons, List.foldlM_nil, hassigned,
      List.length_singleton]
    rcases replace?_cases hrow changes with hnone | ⟨t', ht', hsome⟩
    · exact .inl (by rw [hnone]; rfl)
    · exact .inr (.inr ⟨t', ht', by rw [hsome]; rfl⟩)

end Updating

section Keeping

variable {t t' : Table} {k : Nat} {id : Int64} {changes : Changes} {cells : List Cell}

theorem Keyed.of_columns {columns : List ColumnDef}
    (hdistinct : columns.Pairwise fun a b => Text.eqIgnoringAsciiCase a.name b.name = false)
    (hkey : keyIndex? { columns } = some k)
    (hinteger : Table.affinity { columns } (.column k) = .integer) : Keyed { columns } k where
  distinct := hdistinct
  key := hkey
  integer := hinteger
  width h := by cases h
  filed h := by cases h

theorem Keyed.of_rows (h : t.Keyed k) {rows : Dict Int64 (List Cell)} {n : Int64}
    (hrows : ∀ m, m ≠ n → ∀ cells, rows.get? m = some cells → t.rows.get? m = some cells)
    (hrow : ∀ cells, rows.get? n = some cells →
      cells.length = t.columns.length ∧ cells.getD k .null = .integer n) :
    Keyed { t with rows } k where
  distinct := h.distinct
  key := h.key
  integer := h.integer
  width {m cells} hm := by
    by_cases hmn : m = n
    · exact (hrow cells (hmn ▸ hm)).1
    · exact h.width (hrows m hmn cells hm)
  filed {m cells} hm := by
    by_cases hmn : m = n
    · subst hmn
      exact (hrow cells hm).2
    · exact h.filed (hrows m hmn cells hm)

theorem Keyed.getD_of_numberOf? (h : t.Keyed k) {old n : Int64}
    (hnumber : t.numberOf? old cells = some n) : cells.getD k .null = .integer n := by
  rw [numberOf?, h.key] at hnumber
  dsimp only at hnumber
  split at hnumber
  · rename_i m hcell
    cases hnumber
    exact hcell
  · cases hnumber

theorem Keyed.insert? (h : t.Keyed k) {values : List (String × Cell)}
    (hinsert : t.insert? values = some t') : t'.Keyed k := by
  obtain ⟨named, -, hinsert⟩ := Option.bind_eq_some_iff.mp hinsert
  rw [h.key] at hinsert
  obtain ⟨n, hnumber, hinsert⟩ := Option.bind_eq_some_iff.mp hinsert
  obtain ⟨-, hinsert⟩ := Option.ite_none_left_eq_some.mp hinsert
  cases hinsert
  refine h.of_rows (n := n) ?_ ?_
  · intro m hm cells hcells
    rwa [Dict.get?_insert_of_ne _ _ hm] at hcells
  · intro cells hcells
    rw [Dict.get?_insert_self] at hcells
    cases hcells
    refine ⟨?_, h.getD_of_numberOf? hnumber⟩
    dsimp only
    split <;> simp

/-- A table in which nothing has changed but one row: the cells of it that changes resolve to, and
with the key the number that it is filed under. -/
structure Kept (t : Table) (id : Int64) (changes : Changes) (t' : Table) : Prop where
  columns : t'.columns = t.columns
  others {n : Int64} {cells : List Cell} (hn : n ≠ id) (h : t.rows.get? n = some cells) :
    t'.rows.get? n = some cells
  row {cells : List Cell} (h : t.rows.get? id = some cells) :
    ∃ n cells', t'.rows.get? n = some cells' ∧ cells'.length = cells.length ∧
      (n ≠ id → n = t.destination changes id ∧ t.rows.get? n = none) ∧
      ∀ i, (∀ name, changes.contains name = true → t.target? name ≠ some i) →
        cells'[i]? = cells[i]?
  only {n : Int64} (h : t'.rows.contains n = true) :
    t.rows.contains n = true ∨ t.rows.contains id = true ∧ n = t.destination changes id

theorem Kept.refl (t : Table) (id : Int64) (changes : Changes) : t.Kept id changes t where
  columns := rfl
  others _ h := h
  row h := ⟨id, _, h, rfl, fun hne => absurd rfl hne, fun _ _ => rfl⟩
  only h := .inl h

namespace Changed

theorem keyed (h : t.Changed id changes t') (hk : t.Keyed k) : t'.Keyed k := by
  obtain ⟨hrow, hnumber, hfree⟩ := h
  rename_i cells n
  refine hk.of_rows (n := n) ?_ ?_
  · intro m hm cells hcells
    rw [Dict.get?_insert_of_ne _ _ hm] at hcells
    by_cases hid : m = id
    · rw [hid, Dict.get?_erase_self] at hcells
      cases hcells
    · rwa [Dict.get?_erase_of_ne _ hid] at hcells
  · intro cells hcells
    rw [Dict.get?_insert_self] at hcells
    cases hcells
    exact ⟨(length_changed t changes _).trans (hk.width hrow), hk.getD_of_numberOf? hnumber⟩

/-- A change of a row keeps all other rows, and the cells of this one that it does not resolve
to. -/
theorem kept (h : t.Changed id changes t') (hk : t.Keyed k) : t.Kept id changes t' := by
  obtain ⟨hrow, hnumber, hfree⟩ := h
  rename_i cells n
  have hn : n = t.destination changes id := hk.eq_destination hrow hnumber
  refine ⟨rfl, ?_, ?_, ?_⟩
  · intro m others hm hothers
    have hmn : m ≠ n := by
      rintro rfl
      rw [Dict.get?_erase_of_ne _ hm, hothers] at hfree
      cases hfree
    rw [Dict.get?_insert_of_ne _ _ hmn, Dict.get?_erase_of_ne _ hm, hothers]
  · intro old hold
    obtain rfl : cells = old := Option.some.inj (hrow.symm.trans hold)
    refine ⟨n, _, Dict.get?_insert_self _ _ _, length_changed t changes cells, ?_, ?_⟩
    · intro hne
      rw [Dict.get?_erase_of_ne _ hne] at hfree
      exact ⟨hn, hfree⟩
    · exact fun i hi => getElem?_changed hi
  · intro m hm
    by_cases hmn : m = n
    · exact .inr ⟨Option.isSome_iff_exists.mpr ⟨cells, hrow⟩, hmn.trans hn⟩
    · rw [Dict.contains, Dict.get?_insert_of_ne _ _ hmn] at hm
      by_cases hid : m = id
      · rw [hid, Dict.get?_erase_self] at hm
        cases hm
      · rw [Dict.get?_erase_of_ne _ hid] at hm
        exact .inl hm

/-- The rows keep their numbers exactly if the row that is changed does. -/
theorem contains_iff (h : t.Changed id changes t') (hk : t.Keyed k) :
    (∀ n, t'.rows.contains n = t.rows.contains n) ↔ t.destination changes id = id := by
  obtain ⟨hrow, hnumber, hfree⟩ := h
  rename_i cells n
  have hn : n = t.destination changes id := hk.eq_destination hrow hnumber
  have hpresent : t.rows.contains id = true := Option.isSome_iff_exists.mpr ⟨cells, hrow⟩
  rw [← hn]
  constructor
  · intro hall
    refine Decidable.byContradiction fun hne => ?_
    have hid := hall id
    rw [hpresent, Dict.contains, Dict.get?_insert_of_ne _ _ (Ne.symm hne),
      Dict.get?_erase_self] at hid
    cases hid
  · rintro rfl m
    by_cases hm : m = n
    · rw [hm, hpresent, Dict.contains, Dict.get?_insert_self]
      rfl
    · rw [Dict.contains, Dict.get?_insert_of_ne _ _ hm, Dict.get?_erase_of_ne _ hm]
      rfl

end Changed

end Keeping

end Sql.Table

end TableSearch
