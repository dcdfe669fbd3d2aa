import TableSearch.Proofs.Regex.Literal

/-!
# Occurrences of a literal text

Where case counts, the sets of a literal text hold one character each, so its program matches
exactly where the text occurs. The matches of an iteration are the leftmost occurrences that do not
overlap.
-/
namespace TableSearch.Regex

theorem contains_single_iff {c d : Char} : (CodeSet.single c).contains d = true ↔ c = d := by
  have hcode : c = d ↔ c.toNat = d.toNat := Char.toNat_inj.symm
  simp only [CodeSet.contains, CodeSet.containsCode, CodeSet.single, CodeSet.containsIn, hcode,
    Bool.or_false]
  split
  · simp only [Bool.false_eq_true, false_iff]
    omega
  · simp only [decide_eq_true_eq]
    omega

theorem isPrefix_iff_spelledBy (word cs : List Char) :
    spelledBy (word.map CodeSet.single) cs = true ↔ word <+: cs := by
  induction word generalizing cs with
  | nil => simp [spelledBy]
  | cons c word ih =>
    cases cs with
    | nil => simp [spelledBy]
    | cons d cs =>
      rw [List.map_cons, spelledBy, Bool.and_eq_true, ih, List.cons_prefix_cons,
        contains_single_iff]

namespace Matcher

/-- A program whose matches are the occurrences of a word. -/
def Finds (m : Matcher) (word : List Char) : Prop :=
  ∀ (before : Option Char) (position : Nat) (cs : List Char),
    m.matchAt before position cs =
      if word <+: cs then some ⟨position, position + word.length, []⟩ else none

/-- The program of a literal text finds the text. -/
theorem literal_finds {flags : Flags} (hf : flags.ignoreCase = false) (text : String) :
    (literal flags text).Finds text.toList := by
  have hsets : (text.toList.map fun c => flags.fold (.single c)) =
      text.toList.map CodeSet.single := by
    simp [Flags.fold, hf]
  have hspells := literal_spells flags text
  rw [hsets] at hspells
  intro before position cs
  rw [matchAt_of_spells hspells (groups_literal flags text), List.length_map]
  simp only [isPrefix_iff_spelledBy]

end Matcher

def OccursAt (word text : List Char) (position : Nat) : Prop := word <+: text.drop position

instance (word text : List Char) (position : Nat) : Decidable (OccursAt word text position) :=
  inferInstanceAs (Decidable (word <+: text.drop position))

/-- The positions of a word in a text from `start` on: the first one at which it occurs, and then
those from its end on. -/
inductive Occurrences (word text : List Char) : Nat → List Nat → Prop
  | none {start : Nat} (h : ∀ i, start ≤ i → ¬ OccursAt word text i) :
    Occurrences word text start []
  | next {start i : Nat} {rest : List Nat} (hi : start ≤ i) (hoccurs : OccursAt word text i)
      (hfirst : ∀ j, start ≤ j → j < i → ¬ OccursAt word text j)
      (hrest : Occurrences word text (i + word.length) rest) :
    Occurrences word text start (i :: rest)

theorem Occurrences.unique {word text : List Char} {start : Nat} {places others : List Nat}
    (h : Occurrences word text start places) (h' : Occurrences word text start others) :
    places = others := by
  induction h generalizing others with
  | none hnone =>
    cases h' with
    | none => rfl
    | next hi hoccurs => exact absurd hoccurs (hnone _ hi)
  | @next start i rest hi hoccurs hfirst hrest ih =>
    cases h' with
    | none hnone => exact absurd hoccurs (hnone _ hi)
    | @next _ j _ hj hoccurs' hfirst' hrest' =>
      have hij : i = j := by
        rcases Nat.lt_trichotomy i j with hlt | heq | hgt
        · exact absurd hoccurs (hfirst' i hi hlt)
        · exact heq
        · exact absurd hoccurs' (hfirst j hj hgt)
      subst hij
      rw [ih hrest']

theorem not_occursAt_of_length_lt {word text : List Char} (hword : word ≠ []) {i : Nat}
    (hi : text.length ≤ i) : ¬ OccursAt word text i := by
  intro h
  rw [OccursAt, List.drop_eq_nil_of_le hi] at h
  exact hword (List.prefix_nil.mp h)

namespace Matcher

variable {m : Matcher} {word : List Char} (hm : m.Finds word)
include hm

theorem findFrom_finds (before : Option Char) (position : Nat) (cs : List Char) :
    (m.findFrom before position cs = none ∧ ∀ i, ¬ OccursAt word cs i) ∨
      ∃ i, m.findFrom before position cs =
          some ⟨position + i, position + i + word.length, []⟩ ∧
        OccursAt word cs i ∧ ∀ j < i, ¬ OccursAt word cs j := by
  induction cs generalizing before position with
  | nil =>
    rw [findFrom, hm]
    split
    · rename_i h
      exact .inr ⟨0, rfl, h, fun j hj => absurd hj (Nat.not_lt_zero j)⟩
    · rename_i h
      refine .inl ⟨rfl, ?_⟩
      intro i hi
      rw [OccursAt, List.drop_nil] at hi
      exact h hi
  | cons c cs ih =>
    rw [findFrom, hm]
    by_cases h : word <+: c :: cs
    · rw [if_pos h]
      exact .inr ⟨0, rfl, h, fun j hj => absurd hj (Nat.not_lt_zero j)⟩
    · rw [if_neg h]
      rcases ih (some c) (position + 1) with ⟨hnone, hnot⟩ | ⟨i, hsome, hoccurs, hfirst⟩
      · refine .inl ⟨hnone, ?_⟩
        intro i
        cases i with
        | zero => exact h
        | succ i => exact hnot i
      · have hplace : position + 1 + i = position + (i + 1) := by omega
        refine .inr ⟨i + 1, hplace ▸ hsome, hoccurs, ?_⟩
        intro j hj
        cases j with
        | zero => exact h
        | succ j => exact hfirst j (Nat.lt_of_succ_lt_succ hj)

theorem find_finds (hword : word ≠ []) (text : List Char) (start : Nat) :
    (m.find text start = none ∧ ∀ i, start ≤ i → ¬ OccursAt word text i) ∨
      ∃ i, m.find text start = some ⟨i, i + word.length, []⟩ ∧ start ≤ i ∧
        OccursAt word text i ∧ ∀ j, start ≤ j → j < i → ¬ OccursAt word text j := by
  have hdrop {i : Nat} (hi : start ≤ i) :
      OccursAt word (text.drop start) (i - start) ↔ OccursAt word text i := by
    rw [OccursAt, OccursAt, List.drop_drop, Nat.add_sub_cancel' hi]
  rw [find]
  split
  · rcases findFrom_finds hm _ start (text.drop start) with ⟨hnone, hnot⟩ | ⟨i, hsome, hi, hfirst⟩
    · exact .inl ⟨hnone, fun i hi h => hnot (i - start) ((hdrop hi).mpr h)⟩
    · refine .inr ⟨start + i, hsome, Nat.le_add_right start i, ?_, ?_⟩
      · rw [← hdrop (Nat.le_add_right start i), Nat.add_sub_cancel_left]
        exact hi
      · intro j hj hlt h
        exact hfirst (j - start) (by omega) ((hdrop hj).mpr h)
  · rename_i hstart
    refine .inl ⟨rfl, ?_⟩
    intro i hi
    exact not_occursAt_of_length_lt hword (by omega)

/-- The matches of an iteration are the occurrences of the word. -/
theorem matchesFrom_finds (hword : word ≠ []) (text : List Char) {fuel start : Nat}
    (hfuel : text.length + 1 ≤ fuel + start) (last : Option Nat) :
    ∃ places, Occurrences word text start places ∧
      m.matchesFrom text fuel start last = places.map fun i => ⟨i, i + word.length, []⟩ := by
  have hlength := List.length_pos_iff.mpr hword
  induction fuel generalizing start last with
  | zero =>
    refine ⟨[], .none ?_, rfl⟩
    intro i hi
    exact not_occursAt_of_length_lt hword (by omega)
  | succ fuel ih =>
    rw [matchesFrom]
    rcases find_finds hm hword text start with ⟨hnone, hnot⟩ | ⟨i, hsome, hi, hoccurs, hfirst⟩
    · refine ⟨[], .none hnot, ?_⟩
      simp only [hnone]
      rfl
    · have hempty : (Match.mk i (i + word.length) []).isEmpty = false := by
        simp [Match.isEmpty]
        omega
      have hrest : text.length + 1 ≤ fuel + (i + word.length) := by omega
      obtain ⟨places, hplaces, hmatches⟩ := ih hrest (some (i + word.length))
      refine ⟨i :: places, .next hi hoccurs hfirst hplaces, ?_⟩
      simp only [hsome, hempty, Bool.false_and, Bool.false_eq_true, if_false, hmatches,
        List.map_cons]

theorem matchesIn_finds (hword : word ≠ []) (text : List Char) :
    ∃ places, Occurrences word text 0 places ∧
      m.matchesIn text = places.map fun i => ⟨i, i + word.length, []⟩ :=
  matchesFrom_finds hm hword text (by omega) none

end Matcher

end TableSearch.Regex
