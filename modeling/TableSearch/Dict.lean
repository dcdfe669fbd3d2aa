/-!
# Finite maps in key order

A dictionary is a list of entries whose keys strictly increase, so two dictionaries that answer
every lookup alike are equal, and a walk over the entries is a walk in key order.
-/
namespace TableSearch

/-- A finite map from `κ` to `α`: entries in strictly increasing key order. -/
structure Dict (κ : Type) [Ord κ] (α : Type) where
  /-- The entries, keys strictly increasing. -/
  toList : List (κ × α)
  sorted : toList.Pairwise (fun a b => compare a.1 b.1 = .lt) := by exact .nil

namespace Dict

variable {κ : Type} [Ord κ] {α : Type}

instance [DecidableEq κ] [DecidableEq α] : DecidableEq (Dict κ α) := fun a b =>
  if h : a.toList = b.toList then
    .isTrue (by cases a; cases b; simp_all)
  else .isFalse (fun e => h (e ▸ rfl))

def empty : Dict κ α := ⟨[], .nil⟩

instance : Inhabited (Dict κ α) := ⟨empty⟩

def isEmpty (d : Dict κ α) : Bool := d.toList.isEmpty

def size (d : Dict κ α) : Nat := d.toList.length

/-- The keys, increasing. -/
def keys (d : Dict κ α) : List κ := d.toList.map (·.1)

/-- The values, in key order. -/
def values (d : Dict κ α) : List α := d.toList.map (·.2)

def find? (k : κ) : List (κ × α) → Option α
  | [] => none
  | (j, a) :: rest => if compare k j = .eq then some a else find? k rest

def get? (d : Dict κ α) (k : κ) : Option α := find? k d.toList

def contains (d : Dict κ α) (k : κ) : Bool := (d.get? k).isSome

/-- Put `a` under `k` in an entry list, before the first larger key. -/
def put (k : κ) (a : α) : List (κ × α) → List (κ × α)
  | [] => [(k, a)]
  | (j, b) :: rest =>
    match compare k j with
    | .lt => (k, a) :: (j, b) :: rest
    | .eq => (k, a) :: rest
    | .gt => (j, b) :: put k a rest

theorem filter_sorted (p : κ × α → Bool) {l : List (κ × α)}
    (h : l.Pairwise (fun a b => compare a.1 b.1 = .lt)) :
    (l.filter p).Pairwise (fun a b => compare a.1 b.1 = .lt) :=
  h.sublist List.filter_sublist

def filter (d : Dict κ α) (p : κ → α → Bool) : Dict κ α :=
  ⟨d.toList.filter (fun e => p e.1 e.2), filter_sorted _ d.sorted⟩

def erase (d : Dict κ α) (k : κ) : Dict κ α := d.filter (fun j _ => compare k j != .eq)

@[simp] theorem get?_empty (k : κ) : (empty : Dict κ α).get? k = none := rfl

theorem mem_put {k : κ} {a : α} {e : κ × α} {l : List (κ × α)} (h : e ∈ put k a l) :
    e = (k, a) ∨ e ∈ l := by
  induction l with
  | nil => simpa [put] using h
  | cons x rest ih =>
    obtain ⟨j, b⟩ := x
    unfold put at h
    split at h
    · simpa using h
    · rcases List.mem_cons.1 h with h | h
      · exact .inl h
      · exact .inr (List.mem_cons_of_mem _ h)
    · rcases List.mem_cons.1 h with h | h
      · exact .inr (h ▸ List.mem_cons_self)
      · rcases ih h with h | h
        · exact .inl h
        · exact .inr (List.mem_cons_of_mem _ h)

variable [Std.TransOrd κ] [Std.LawfulEqOrd κ]

theorem put_sorted (k : κ) (a : α) {l : List (κ × α)}
    (h : l.Pairwise (fun a b => compare a.1 b.1 = .lt)) :
    (put k a l).Pairwise (fun a b => compare a.1 b.1 = .lt) := by
  induction l with
  | nil => simp [put]
  | cons x rest ih =>
    obtain ⟨j, b⟩ := x
    have hr := (List.pairwise_cons.1 h).1
    have ht := (List.pairwise_cons.1 h).2
    unfold put
    split
    · rename_i hlt
      refine List.pairwise_cons.2 ⟨?_, h⟩
      intro e he
      rcases List.mem_cons.1 he with rfl | he
      · exact hlt
      · exact Std.TransCmp.lt_trans hlt (hr e he)
    · rename_i heq
      have : k = j := Std.compare_eq_iff_eq.1 heq
      subst this
      exact List.pairwise_cons.2 ⟨hr, ht⟩
    · rename_i hgt
      refine List.pairwise_cons.2 ⟨?_, ih ht⟩
      intro e he
      rcases mem_put he with rfl | he
      · exact Std.OrientedCmp.lt_of_gt hgt
      · exact hr e he

/-- Put `a` under `k`, in place of what was there. -/
def insert (d : Dict κ α) (k : κ) (a : α) : Dict κ α :=
  ⟨put k a d.toList, put_sorted k a d.sorted⟩

/-- Insert entries one after the other: of two entries with one key the later stays. -/
def insertAll (d : Dict κ α) (entries : List (κ × α)) : Dict κ α :=
  entries.foldl (fun d e => d.insert e.1 e.2) d

/-- The dictionary of a list of entries; of two entries with one key the later stays. -/
def ofList (entries : List (κ × α)) : Dict κ α := insertAll empty entries

omit [Std.TransOrd κ] in
theorem find?_put (k j : κ) (a : α) (l : List (κ × α)) :
    find? j (put k a l) = if compare j k = .eq then some a else find? j l := by
  induction l with
  | nil => simp [put, find?]
  | cons x rest ih =>
    obtain ⟨i, b⟩ := x
    unfold put
    split
    · simp [find?]
    · rename_i h
      have : k = i := Std.compare_eq_iff_eq.1 h
      subst this
      simp only [find?]
      split <;> rfl
    · rename_i h
      simp only [find?, ih]
      split
      · rename_i hji
        have : j = i := Std.compare_eq_iff_eq.1 hji
        subst this
        split
        · rename_i hjk
          have hjk : j = k := Std.compare_eq_iff_eq.1 hjk
          subst hjk
          simp_all
        · rfl
      · rfl

theorem get?_insert (d : Dict κ α) (k j : κ) (a : α) :
    (d.insert k a).get? j = if compare j k = .eq then some a else d.get? j :=
  find?_put k j a d.toList

end Dict

end TableSearch
