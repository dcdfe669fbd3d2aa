import Mathlib.Data.List.Nodup
import TableSearch.Proofs.JsonText
import TableSearch.Request.Json
import TableSearch.Schema.Json

/-!
# The wire form of schemas and requests

A record is written with the fields that are given, and read into one slot for each declared field
(`slots?_given`); a slot that is left out reads as the default it was left out for. So schemas and
requests are read back from what is written of them, as trees and as texts (`wire_roundTrip`),
their trees being few levels deep and their numbers of 64 bits.
-/
namespace TableSearch

namespace Json

/-- The fields of a record whose absent ones are left out. -/
def given : List String → List (Option Json) → List (String × Json)
  | name :: names, some value :: slots => (name, value) :: given names slots
  | _ :: names, none :: slots => given names slots
  | _, _ => []

section Slots

variable {names : List String}

theorem keys_given_sublist (names : List String) (slots : List (Option Json)) :
    ((given names slots).map Prod.fst).Sublist names := by
  induction names, slots using given.induct with
  | case1 name names value slots ih => exact ih.cons_cons name
  | case2 name names slots ih => exact ih.cons name
  | case3 names slots h₁ h₂ =>
    rw [given.eq_3 names slots h₁ h₂]
    exact List.nil_sublist names

theorem mem_slots_of_mem_given {slots : List (Option Json)} {field : String × Json}
    (h : field ∈ given names slots) : some field.2 ∈ slots := by
  induction names, slots using given.induct with
  | case1 name names value slots ih =>
    rw [given] at h
    rcases List.mem_cons.mp h with rfl | h
    · exact List.mem_cons_self
    · exact List.mem_cons_of_mem _ (ih h)
  | case2 name names slots ih =>
    rw [given] at h
    exact List.mem_cons_of_mem _ (ih h)
  | case3 names slots h₁ h₂ =>
    rw [given.eq_3 names slots h₁ h₂] at h
    cases h

theorem lookup_given_of_notMem {name : String} (slots : List (Option Json)) (h : name ∉ names) :
    (given names slots).lookup name = none := by
  rw [List.lookup_eq_none_iff]
  intro field hfield
  have hmem : field.1 ∈ names :=
    (keys_given_sublist names slots).subset (List.mem_map_of_mem hfield)
  rw [bne_iff_ne]
  rintro rfl
  exact h hmem

theorem map_lookup_given (hnames : names.Nodup) {slots : List (Option Json)}
    (h : names.length = slots.length) :
    names.map (fun name => (given names slots).lookup name) = slots := by
  induction names generalizing slots with
  | nil => exact (List.eq_nil_of_length_eq_zero h.symm).symm
  | cons name names ih =>
    obtain ⟨hname, hnames⟩ := List.nodup_cons.mp hnames
    cases slots with
    | nil => cases h
    | cons slot slots =>
      have hslots := ih hnames (Nat.succ.inj h)
      cases slot with
      | none =>
        rw [given, List.map_cons, lookup_given_of_notMem slots hname, hslots]
      | some value =>
        rw [given, List.map_cons, List.lookup_cons_self]
        congr 1
        refine (List.map_congr_left fun other hother => ?_).trans hslots
        have hne : (other == name) = false := by
          rw [beq_eq_false_iff_ne]
          rintro rfl
          exact hname hother
        rw [List.lookup_cons, hne]

/-- A record of declared fields is read into the slots that it was made of. -/
theorem slots?_given (hnames : names.Nodup) {slots : List (Option Json)}
    (h : names.length = slots.length) :
    (record (given names slots)).slots? names = some slots := by
  have hkeys : ((given names slots).map Prod.fst).Nodup :=
    (keys_given_sublist names slots).nodup hnames
  have honce : names.all fun name =>
      ((given names slots).filter (·.1 == name)).length ≤ 1 := by
    rw [List.all_eq_true]
    intro name _
    have hcount := List.nodup_iff_count_le_one.mp hkeys name
    rw [List.count, List.countP_map, List.countP_eq_length_filter] at hcount
    exact decide_eq_true hcount
  rw [slots?, if_pos honce, map_lookup_given hnames h]

end Slots

section Fields

theorem text?_text (s : String) : text? (text s) = some s := rfl

theorem int64?_ofInt64 (n : Int64) : int64? (ofInt64 n) = some n := Text.toInt64?_toInt n

variable {α : Type} {read : Json → Option α} {write : α → Json}

theorem listOf?_map (h : ∀ a, read (write a) = some a) (l : List α) :
    listOf? read (list (l.map write)) = some l := by
  rw [listOf?]
  induction l with
  | nil => rfl
  | cons a l ih => simp [h, ih]

theorem defaulted?_map (h : ∀ a, read (write a) = some a) (hnull : ∀ a, write a ≠ null)
    (o : Option α) : defaulted? none (nullable? read) (o.map write) = some o := by
  cases o with
  | none => rfl
  | some a =>
    have hread : nullable? read (write a) = (read (write a)).map some := by
      unfold nullable?
      split
      · rename_i hwrite
        exact absurd hwrite (hnull a)
      · rfl
    rw [Option.map_some, defaulted?, hread, h]
    rfl

theorem defaulted?_some (default : α) (value : Json) :
    defaulted? default read (some value) = read value := rfl

/-- A truth value that is left out at its default. -/
def flag (default b : Bool) : Option Json := if b = default then none else some (bool b)

theorem defaulted?_flag (default b : Bool) :
    defaulted? default bool? (flag default b) = some b := by
  cases default <;> cases b <;> rfl

end Fields

end Json

open Json

section Schemas

@[simp] theorem ColumnOption.ofJson?_toJson (o : ColumnOption) : ofJson? o.toJson = some o := rfl

@[simp] theorem ColumnOptions.ofJson?_toJson (o : ColumnOptions) : ofJson? o.toJson = some o := by
  cases o with
  | listed options =>
    change (listOf? ColumnOption.ofJson? (.list (options.map ColumnOption.toJson))).map listed = _
    rw [listOf?_map ColumnOption.ofJson?_toJson]
    rfl
  | suggested => rfl

theorem ColumnType.ofJson?_name (t : ColumnType) : ofJson? (.text t.name) = some t := by
  cases t <;> rfl

theorem Column.toJson_eq (c : Column) :
    c.toJson = .record (given ["column", "type", "title", "modify", "options", "global", "preload"]
      [some (.text c.id), some (.text c.type.name), some (.text c.title), flag true c.modify,
        c.options.map ColumnOptions.toJson, flag false c.global, flag false c.preload]) := by
  obtain ⟨id, type, title, modify, options, global, preload⟩ := c
  cases modify <;> cases options <;> cases global <;> cases preload <;> rfl

theorem ColumnOptions.toJson_ne_null (o : ColumnOptions) : o.toJson ≠ .null := by
  cases o <;> nofun

@[simp] theorem Column.ofJson?_toJson (c : Column) : ofJson? c.toJson = some c := by
  rw [Column.toJson_eq, Column.ofJson?, slots?_given (by decide) rfl]
  simp only [required?, Option.bind_eq_bind, Option.bind_some, Option.pure_def, text?_text,
    ColumnType.ofJson?_name, defaulted?_flag,
    defaulted?_map ColumnOptions.ofJson?_toJson ColumnOptions.toJson_ne_null]

@[simp] theorem Schema.ofJson?_toJson (s : Schema) : ofJson? s.toJson = some s := by
  change (do
    let name ← some s.name
    let table ← some s.table
    let columns ← listOf? Column.ofJson? (.list (s.columns.map Column.toJson))
    return { name, table, columns }) = some s
  rw [listOf?_map Column.ofJson?_toJson]
  rfl

end Schemas

section Requests

theorem Logic.ofJson?_name (logic : Logic) : ofJson? (.text logic.name) = some logic := by
  cases logic <;> rfl

@[simp] theorem Filter.ofJson?_toJson (f : Filter) : ofJson? f.toJson = some f := by
  change (do
    let column ← some f.column
    let logic ← Logic.ofJson? (.text f.logic.name)
    let values ← listOf? Value.ofJson? (.list (f.values.map Value.toJson))
    return { column, logic, values }) = some f
  rw [listOf?_map Value.ofJson?_toJson, Logic.ofJson?_name]
  rfl

theorem Phrase.toJson_eq (p : Phrase) :
    p.toJson = .record (given ["pattern", "flags", "replacement"]
      [some (.text p.pattern),
        some (.record [("regex", .bool p.regex), ("case_insensitive", .bool p.ignoreCase)]),
        p.replacement.map Json.text]) := by
  obtain ⟨pattern, regex, ignoreCase, replacement⟩ := p
  cases replacement <;> rfl

theorem Phrase.flags?_record (regex ignoreCase : Bool) :
    flags? (.record [("regex", .bool regex), ("case_insensitive", .bool ignoreCase)]) =
      some (regex, ignoreCase) := rfl

@[simp] theorem Phrase.ofJson?_toJson (p : Phrase) : ofJson? p.toJson = some p := by
  rw [Phrase.toJson_eq, Phrase.ofJson?, slots?_given (by decide) rfl]
  have hreplacement := defaulted?_map text?_text nofun p.replacement
  simp only [required?, Option.bind_eq_bind, Option.bind_some, Option.pure_def, text?_text,
    defaulted?_some, Phrase.flags?_record, hreplacement]

theorem Request.toJson_eq (r : Request) :
    r.toJson = .record (given ["phrase", "filters", "limit", "offset"]
      [r.phrase.map Phrase.toJson, some (.list (r.filters.map Filter.toJson)),
        r.limit.map ofInt64, some (ofInt64 r.offset)]) := by
  obtain ⟨phrase, filters, limit, offset⟩ := r
  cases phrase <;> cases limit <;> rfl

theorem Phrase.toJson_ne_null (p : Phrase) : p.toJson ≠ .null := nofun

@[simp] theorem Request.ofJson?_toJson (r : Request) : ofJson? r.toJson = some r := by
  have hphrase := defaulted?_map Phrase.ofJson?_toJson Phrase.toJson_ne_null r.phrase
  have hlimit := defaulted?_map int64?_ofInt64 nofun r.limit
  rw [Request.toJson_eq, Request.ofJson?, slots?_given (by decide) rfl]
  simp only [Option.bind_eq_bind, Option.bind_some, Option.pure_def, defaulted?_some, hphrase,
    hlimit, listOf?_map Filter.ofJson?_toJson, int64?_ofInt64]

end Requests

section Legibility

variable {levels : Nat}

theorem legible_given {names : List String} {slots : List (Option Json)}
    (h : ∀ slot ∈ slots, ∀ value ∈ slot, Legible levels value) :
    Legible (levels + 1) (.record (given names slots)) := by
  constructor
  intro field hfield
  exact h (some field.2) (mem_slots_of_mem_given hfield) field.2 rfl

theorem legible_map {α : Type} {write : α → Json} (h : ∀ a, Legible levels (write a)) (l : List α) :
    Legible (levels + 1) (.list (l.map write)) := by
  constructor
  intro item hitem
  obtain ⟨a, -, rfl⟩ := List.mem_map.mp hitem
  exact h a

theorem legible_int64 (n : Int64) : Legible levels (.integer n.toInt) := by
  constructor
  have hlow := n.le_toInt
  have hhigh := n.toInt_lt
  have hlength : (Nat.toDigits 10 n.toInt.natAbs).length ≤ 19 :=
    (Nat.length_toDigits_le_iff (by decide) (by decide)).mpr (by omega)
  unfold Reader.isFinite
  simp only
  split
  · rfl
  · rw [if_pos (by omega)]

theorem legible_some {value : Json} (h : Legible levels value) :
    ∀ v ∈ some value, Legible levels v := by
  rintro v ⟨⟩
  exact h

theorem legible_option {α : Type} {write : α → Json} (h : ∀ a, Legible levels (write a))
    (o : Option α) : ∀ v ∈ o.map write, Legible levels v := by
  intro v hv
  obtain ⟨a, -, rfl⟩ := Option.map_eq_some_iff.mp hv
  exact h a

theorem legible_flag (default b : Bool) : ∀ v ∈ flag default b, Legible levels v := by
  intro v hv
  obtain ⟨-, rfl⟩ : ¬b = default ∧ Json.bool b = v := by simpa [flag] using hv
  exact .bool b

theorem ColumnOption.legible (o : ColumnOption) : Legible (levels + 1) o.toJson := by
  constructor
  simp only [List.forall_mem_cons]
  exact ⟨.text _, .text _, nofun⟩

theorem ColumnOptions.legible (o : ColumnOptions) : Legible (levels + 2) o.toJson := by
  cases o with
  | listed options => exact legible_map ColumnOption.legible options
  | suggested => exact .text marker

theorem Column.legible (c : Column) : Legible (levels + 3) c.toJson := by
  rw [Column.toJson_eq]
  apply legible_given
  simp only [List.forall_mem_cons]
  exact ⟨legible_some (.text _), legible_some (.text _), legible_some (.text _), legible_flag _ _,
    legible_option ColumnOptions.legible c.options, legible_flag _ _, legible_flag _ _, nofun⟩

theorem Schema.legible (s : Schema) : Legible (levels + 5) s.toJson := by
  constructor
  simp only [List.forall_mem_cons]
  exact ⟨.text _, .text _, legible_map Column.legible s.columns, nofun⟩

theorem Value.legible (v : Value) : Legible levels v.toJson := by
  cases v with
  | null => exact .null
  | integer n => exact legible_int64 n
  | text s => exact .text s

theorem Filter.legible (f : Filter) : Legible (levels + 2) f.toJson := by
  constructor
  simp only [List.forall_mem_cons]
  exact ⟨.text _, .text _, legible_map Value.legible f.values, nofun⟩

theorem Phrase.legible (p : Phrase) : Legible (levels + 2) p.toJson := by
  rw [Phrase.toJson_eq]
  apply legible_given
  simp only [List.forall_mem_cons]
  refine ⟨legible_some (.text _), legible_some ?_, legible_option .text p.replacement, nofun⟩
  constructor
  simp only [List.forall_mem_cons]
  exact ⟨.bool _, .bool _, nofun⟩

theorem Request.legible (r : Request) : Legible (levels + 4) r.toJson := by
  rw [Request.toJson_eq]
  apply legible_given
  simp only [List.forall_mem_cons]
  exact ⟨legible_option Phrase.legible r.phrase,
    legible_some (legible_map Filter.legible r.filters), legible_option legible_int64 r.limit,
    legible_some (legible_int64 r.offset), nofun⟩

end Legibility

/-- What is written of a schema or a request, as a tree and as a text, is read as that schema or
that request. -/
theorem wire_roundTrip :
    (∀ s : Schema, Schema.ofJson? s.toJson = some s ∧
      (Json.read? s.toJson.write).bind Schema.ofJson? = some s) ∧
    ∀ r : Request, Request.ofJson? r.toJson = some r ∧
      (Json.read? r.toJson.write).bind Request.ofJson? = some r := by
  constructor
  · intro s
    refine ⟨s.ofJson?_toJson, ?_⟩
    rw [Json.read?_write s.legible]
    exact s.ofJson?_toJson
  · intro r
    refine ⟨r.ofJson?_toJson, ?_⟩
    rw [Json.read?_write r.legible]
    exact r.ofJson?_toJson

end TableSearch
