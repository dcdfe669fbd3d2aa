import Mathlib.Data.Nat.Init
import TableSearch.Proofs.Regex.Escaping
import TableSearch.Proofs.Regex.Occurrences
import TableSearch.Proofs.Spans

/-!
# Literal phrases

A literal phrase is compiled as the pattern in which every character of it is escaped. Where case
counts, its spans are the leftmost occurrences of the phrase that do not overlap, and its
replacement takes their place as it is written, whatever signs it has.
-/
namespace TableSearch

open Regex (slice substitute Occurrences OccursAt)

theorem Phrase.compile_eq (p : Phrase) :
    p.compile = if p.pattern.isEmpty then .error (.invalidPattern .emptyPhrase)
      else
        match Regex.Matcher.compile { ignoreCase := p.ignoreCase }
            (if p.regex then p.pattern else Regex.literalPattern p.pattern) with
        | .ok matcher => .ok ⟨matcher, p.replacement.map (if p.regex then .template else .verbatim)⟩
        | .error e => .error (.invalidPattern (.malformed e)) := by
  unfold compile
  split
  · rfl
  · cases p.regex with
    | true => rfl
    | false =>
      have hliteral : Regex.Matcher.compile { ignoreCase := p.ignoreCase }
          (Regex.literalPattern p.pattern) =
            Regex.Matcher.compileLiteral { ignoreCase := p.ignoreCase } p.pattern :=
        Regex.Matcher.compile_literalPattern rfl rfl p.pattern
      rw [← hliteral]
      rfl

namespace Regex

variable {word text : List Char} {start i : Nat} {places : List Nat}

theorem slice_of_occursAt (h : OccursAt word text i) : slice text i (i + word.length) = word := by
  rw [slice, Nat.add_sub_cancel_left]
  exact (List.prefix_iff_eq_take.mp h).symm

theorem exists_occursAt_iff : (∃ i, OccursAt word text i) ↔ word <:+: text := by
  constructor
  · rintro ⟨i, h⟩
    exact h.isInfix.trans (List.drop_suffix i text).isInfix
  · rintro ⟨before, after, rfl⟩
    refine ⟨before.length, ?_⟩
    rw [OccursAt, List.append_assoc, List.drop_left]
    exact List.prefix_append word after

theorem Occurrences.occursAt_of_mem (h : Occurrences word text start places) (hi : i ∈ places) :
    OccursAt word text i := by
  induction h with
  | none => cases hi
  | next _ hoccurs _ _ ih =>
    rcases List.mem_cons.mp hi with rfl | hi
    · exact hoccurs
    · exact ih hi

theorem Occurrences.eq_nil_iff (h : Occurrences word text 0 places) :
    places = [] ↔ ¬ word <:+: text := by
  rw [← exists_occursAt_iff, not_exists]
  constructor
  · rintro rfl
    cases h with
    | none hnone => exact fun i => hnone i (Nat.zero_le i)
  · intro hnone
    cases h with
    | none => rfl
    | next _ hoccurs => exact absurd hoccurs (hnone _)

/-- What is left of a text from `start` on around words of `width` characters at some places. -/
def remains (text : List Char) (width : Nat) : Nat → List Nat → List (List Char)
  | start, [] => [text.drop start]
  | start, i :: rest => slice text start i :: remains text width (i + width) rest

theorem intercalate_remains_cons (between text : List Char) (width start i : Nat)
    (rest : List Nat) :
    between.intercalate (remains text width start (i :: rest)) =
      slice text start i ++ between ++
        between.intercalate (remains text width (i + width) rest) := by
  cases rest <;> simp [remains, List.intercalate]

theorem intercalate_remains (h : Occurrences word text start places) :
    word.intercalate (remains text word.length start places) = text.drop start := by
  induction h with
  | none => simp [remains, List.intercalate]
  | @next start i rest hi hoccurs _ _ ih =>
    have hafter : slice text i (i + word.length) ++ text.drop (i + word.length) = text.drop i :=
      slice_append_drop (Nat.le_add_right i word.length)
    rw [slice_of_occursAt hoccurs] at hafter
    rw [intercalate_remains_cons, ih, List.append_assoc, hafter, slice_append_drop hi]

theorem substitute_eq_intercalate (text : List Char) (width : Nat) (between : List Char)
    (start : Nat) (places : List Nat) :
    substitute text (fun _ => between) start (places.map fun i => ⟨i, i + width, []⟩) =
      between.intercalate (remains text width start places) := by
  induction places generalizing start with
  | nil => simp [remains, List.intercalate, substitute]
  | cons i places ih => rw [List.map_cons, substitute, ih, intercalate_remains_cons]

end Regex

namespace Phrase

/-- The span of a literal phrase at a position. -/
def spanAt (p : Phrase) (position : Nat) : Span where
  position := position
  length := p.pattern.length
  text := p.pattern
  replacement := p.replacement
  captures := []

variable {p : Phrase} {f : Finder} (hregex : p.regex = false) (hp : p.compile = .ok f)
include hregex hp

/-- What is looked for is the phrase with every character escaped. -/
theorem compile_escaped :
    Regex.Matcher.compile { ignoreCase := p.ignoreCase } (Regex.literalPattern p.pattern) =
      .ok f.matcher := by
  rw [compile_eq, hregex] at hp
  split at hp
  · cases hp
  · simp only [Bool.false_eq_true, if_false] at hp
    split at hp
    · rename_i matcher hmatcher
      cases hp
      exact hmatcher
    · cases hp

theorem spanOf_occurrence {text : List Char} {i : Nat} (h : OccursAt p.pattern.toList text i) :
    f.spanOf text ⟨i, i + p.pattern.toList.length, []⟩ = p.spanAt i := by
  obtain ⟨-, hf⟩ := eq_literal hregex hp
  have hreplacement :
      (f.replacementOf text ⟨i, i + p.pattern.toList.length, []⟩).map String.ofList =
        p.replacement := by
    rw [hf]
    cases p.replacement with
    | none => rfl
    | some r => exact congrArg some String.ofList_toList
  rw [Finder.spanOf, hreplacement, Regex.slice_of_occursAt h, Nat.add_sub_cancel_left,
    String.ofList_toList, String.length_toList]
  rfl

variable (hcase : p.ignoreCase = false)
include hcase

/-- The matches and the spans of a text are the occurrences of the phrase. -/
theorem exists_occurrences (text : String) :
    ∃ places, Occurrences p.pattern.toList text.toList 0 places ∧
      f.matcher.matchesIn text.toList =
        places.map (fun i => ⟨i, i + p.pattern.toList.length, []⟩) ∧
      f.spans text = places.map p.spanAt := by
  obtain ⟨hpattern, hf⟩ := eq_literal hregex hp
  have hword : p.pattern.toList ≠ [] := by simpa using hpattern
  have hfinds : f.matcher.Finds p.pattern.toList := by
    rw [hf]
    exact Regex.Matcher.literal_finds hcase p.pattern
  obtain ⟨places, hplaces, hmatches⟩ :=
    Regex.Matcher.matchesIn_finds hfinds hword text.toList
  refine ⟨places, hplaces, hmatches, ?_⟩
  have hall : (f.matcher.matchesIn text.toList).filter (!·.isEmpty) =
      f.matcher.matchesIn text.toList := by
    rw [List.filter_eq_self]
    intro found hfound
    rw [isEmpty_of_literal hp hregex hfound]
    rfl
  rw [Finder.spans, hall, hmatches, List.map_map]
  apply List.map_congr_left
  intro i hi
  exact spanOf_occurrence hregex hp (hplaces.occursAt_of_mem hi)

end Phrase

/-- A literal phrase where case counts is its escaped pattern. It is found exactly where its text
occurs, from the left and without overlap. Between those places remains what its replacement, as it
is written, is put between. -/
theorem literal_phrase {p : Phrase} {f : Finder} (hregex : p.regex = false)
    (hcase : p.ignoreCase = false) (hp : p.compile = .ok f) (text : String) :
    Regex.Matcher.compile {} (Regex.literalPattern p.pattern) = .ok f.matcher ∧
      ∃ places, Occurrences p.pattern.toList text.toList 0 places ∧
        (∀ others, Occurrences p.pattern.toList text.toList 0 others → others = places) ∧
        (places = [] ↔ ¬ p.pattern.toList <:+: text.toList) ∧
        (∀ id, Context.find? id text f =
          if places = [] then none else some (.found id text (places.map p.spanAt))) ∧
        p.pattern.toList.intercalate
          (Regex.remains text.toList p.pattern.length 0 places) = text.toList ∧
        ∀ r, p.replacement = some r →
          f.replaceAll text = .ok (String.ofList (r.toList.intercalate
            (Regex.remains text.toList p.pattern.length 0 places))) := by
  have hescaped := Phrase.compile_escaped hregex hp
  rw [hcase] at hescaped
  obtain ⟨places, hplaces, hmatches, hspans⟩ := Phrase.exists_occurrences hregex hp hcase text
  rw [← String.length_toList]
  refine ⟨hescaped, places, hplaces, fun others hothers => hothers.unique hplaces,
    hplaces.eq_nil_iff, ?_, Regex.intercalate_remains hplaces, ?_⟩
  · intro id
    rw [Context.find?, hspans]
    cases places <;> rfl
  · intro r hr
    obtain ⟨-, hf⟩ := Phrase.eq_literal hregex hp
    rw [hr] at hf
    rw [← Regex.substitute_eq_intercalate, ← hmatches, hf]
    rfl

/-- The phrase overlaps itself at the fourth character and as a pattern would match at the sixth;
the sign in its replacement stands for itself. -/
theorem literal_phrase_sample :
    ∃ f, Phrase.compile { pattern := "a.a", replacement := some "$0" } = .ok f ∧
      (Context.find? 0 "xa.a.aya.a" f).map (·.spans.map fun s => (s.position, s.text)) =
        some [(1, "a.a"), (7, "a.a")] ∧
      f.replaceAll "xa.a.aya.a" = .ok "x$0.ay$0" := by
  let f : Finder := ⟨.literal {} "a.a", some (.verbatim "$0")⟩
  have hf : Phrase.compile { pattern := "a.a", replacement := some "$0" } = .ok f := rfl
  have hlast : Occurrences "a.a".toList "xa.a.aya.a".toList 4 [7] :=
    .next (by decide) (by decide) (by decide)
      (.none fun i hi => Regex.not_occursAt_of_length_lt (by decide) hi)
  have hplaces : Occurrences "a.a".toList "xa.a.aya.a".toList 0 [1, 7] :=
    .next (by decide) (by decide) (by decide) hlast
  obtain ⟨-, places, -, hunique, -, hfind, -, hreplace⟩ :=
    literal_phrase rfl rfl hf "xa.a.aya.a"
  obtain rfl := hunique _ hplaces
  refine ⟨f, hf, ?_, ?_⟩
  · rw [hfind]
    rfl
  · rw [hreplace "$0" rfl]
    rfl

end TableSearch
