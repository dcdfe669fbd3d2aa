import Mathlib.Algebra.GroupWithZero.Nat
import TableSearch.Context
import TableSearch.Proofs.Regex.Literal

/-!
# Previewed and applied replacements

A search previews the edit of a text: each span with the replacement that would take its place.
Applying the replacement also fills the places where the pattern matches nothing, which have no
span. The two edits agree exactly where nothing would be put into those places, so for literal
phrases always.
-/
namespace TableSearch

open Regex (slice substitute InOrder)

section Slices

variable {text : List Char} {start mid stop : Nat}

theorem slice_append_slice (h : start ≤ mid) (h' : mid ≤ stop) :
    slice text start mid ++ slice text mid stop = slice text start stop := by
  have hm : text.drop mid = (text.drop start).drop (mid - start) := by
    rw [List.drop_drop]
    congr 1
    omega
  have hs : stop - start = (mid - start) + (stop - mid) := by omega
  rw [slice, slice, slice, hm, hs, List.take_add]

theorem slice_append_drop (h : start ≤ mid) :
    slice text start mid ++ text.drop mid = text.drop start := by
  have hm : text.drop mid = (text.drop start).drop (mid - start) := by
    rw [List.drop_drop]
    congr 1
    omega
  rw [slice, hm, List.take_append_drop]

theorem slice_append_substitute (replacement : Regex.Match → List Char)
    {found : List Regex.Match} {high : Nat} (h : start ≤ mid) (ho : InOrder high mid found) :
    slice text start mid ++ substitute text replacement mid found =
      substitute text replacement start found := by
  cases found with
  | nil => exact slice_append_drop h
  | cons first rest =>
    simp only [substitute, ← List.append_assoc]
    rw [slice_append_slice h ho.1.low_le]

end Slices

namespace Regex

theorem InOrder.mono {high start start' : Nat} {found : List Match} (h : InOrder high start found)
    (hs : start' ≤ start) : InOrder high start' found := by
  cases found with
  | nil => trivial
  | cons first rest => exact ⟨h.1.mono hs, h.2⟩

theorem InOrder.filter {high start : Nat} {found : List Match} (h : InOrder high start found)
    (p : Match → Bool) : InOrder high start (found.filter p) := by
  induction found generalizing start with
  | nil => trivial
  | cons first rest ih =>
    have hrest := ih h.2
    rw [List.filter_cons]
    split
    · exact ⟨h.1, hrest⟩
    · exact hrest.mono (Nat.le_trans h.1.low_le h.1.start_le)

theorem Match.stop_eq_of_isEmpty {found : Match} (h : found.isEmpty = true) :
    found.stop = found.start :=
  (beq_iff_eq.mp h).symm

/-- Matches of nothing may be left out where nothing takes their place. -/
theorem substitute_filter_of_empty {text : List Char} {replacement : Match → List Char}
    {found : List Match} {high start : Nat} (h : InOrder high start found)
    (he : ∀ m ∈ found, m.isEmpty = true → replacement m = []) :
    substitute text replacement start found =
      substitute text replacement start (found.filter (!·.isEmpty)) := by
  induction found generalizing start with
  | nil => rfl
  | cons first rest ih =>
    have hrest := ih h.2 fun m hm => he m (List.mem_cons_of_mem first hm)
    cases hempty : first.isEmpty with
    | false => simp [substitute, hempty, hrest]
    | true =>
      have hstop := Match.stop_eq_of_isEmpty hempty
      have hfilter : (first :: rest).filter (!·.isEmpty) = rest.filter (!·.isEmpty) := by
        simp [hempty]
      rw [hfilter, substitute, he first List.mem_cons_self hempty, hrest, List.append_nil, hstop]
      exact slice_append_substitute _ h.1.low_le (hstop ▸ h.2.filter _)

/-- Matches of nothing lengthen a text by what takes their place. -/
theorem length_substitute (text : List Char) (replacement : Match → List Char)
    {found : List Match} {high start : Nat} (h : InOrder high start found) :
    (substitute text replacement start found).length =
      (substitute text replacement start (found.filter (!·.isEmpty))).length +
        ((found.filter (·.isEmpty)).map fun m => (replacement m).length).sum := by
  induction found generalizing start with
  | nil => simp
  | cons first rest ih =>
    have hrest := ih h.2
    cases hempty : first.isEmpty with
    | false =>
      simp only [substitute, hempty, List.filter_cons, Bool.not_false, if_true, List.length_append,
        hrest, Bool.false_eq_true, if_false]
      omega
    | true =>
      have hstop := Match.stop_eq_of_isEmpty hempty
      have hsplit : (slice text start first.start).length +
          (substitute text replacement first.start (rest.filter (!·.isEmpty))).length =
            (substitute text replacement start (rest.filter (!·.isEmpty))).length := by
        rw [← List.length_append,
          slice_append_substitute replacement h.1.low_le (hstop ▸ h.2.filter (!·.isEmpty))]
      rw [hstop] at hrest
      simp only [substitute, hempty, List.filter_cons, Bool.not_true, Bool.false_eq_true, if_false,
        List.length_append, hstop, hrest, if_true, List.map_cons, List.sum_cons]
      omega

theorem substitute_eq_filter_iff (text : List Char) (replacement : Match → List Char)
    {found : List Match} {high start : Nat} (h : InOrder high start found) :
    substitute text replacement start found =
        substitute text replacement start (found.filter (!·.isEmpty)) ↔
      ∀ m ∈ found, m.isEmpty = true → replacement m = [] := by
  constructor
  · intro heq m hm hempty
    have hlen := length_substitute text replacement h
    rw [heq] at hlen
    have hsum : ((found.filter (·.isEmpty)).map fun m => (replacement m).length).sum = 0 := by
      omega
    have hzero := List.sum_eq_zero_iff_forall_eq_nat.mp hsum (replacement m).length
      (List.mem_map.mpr ⟨m, List.mem_filter.mpr ⟨hm, hempty⟩, rfl⟩)
    exact List.eq_nil_of_length_eq_zero hzero
  · exact substitute_filter_of_empty h

end Regex

/-- What a span puts in its place: what it previews, or its own text if it previews nothing. -/
def Span.preview (s : Span) : List Char := (s.replacement.getD s.text).toList

/-- A text with the previews in place of spans, going on at a position. -/
def applySpans (text : List Char) : Nat → List Span → List Char
  | start, [] => text.drop start
  | start, s :: rest =>
    slice text start s.position ++ s.preview ++ applySpans text (s.position + s.length) rest

/-- A text after the edit that a search of it previews; without a match it stays as it is. -/
def Context.previewed (text : String) : Option Context → String
  | none => text
  | some c => String.ofList (applySpans text.toList 0 c.spans)

namespace Finder

variable {f : Finder}

theorem applySpans_spanOf {r : Replacement} (hr : f.replacement = some r) {text : List Char}
    {found : List Regex.Match} {high start : Nat} (h : InOrder high start found) :
    applySpans text start (found.map (f.spanOf text)) =
      substitute text (r.apply f.matcher text) start found := by
  induction found generalizing start with
  | nil => rfl
  | cons first rest ih =>
    have hstop : first.start + (first.stop - first.start) = first.stop :=
      Nat.add_sub_cancel' h.1.start_le
    have hrest := ih h.2
    simp only [List.map_cons, applySpans, substitute, spanOf, Span.preview, replacementOf, hr,
      Option.map_some, Option.getD_some, String.toList_ofList, hstop]
    rw [← hrest]

/-- The previewed edit replaces the matches that are not empty. -/
theorem previewed_find? (hm : f.matcher.Sound) {r : Replacement} (hr : f.replacement = some r)
    (text : String) (id : Nat) :
    Context.previewed text (Context.find? id text f) =
      String.ofList (substitute text.toList (r.apply f.matcher text.toList) 0
        ((f.matcher.matchesIn text.toList).filter (!·.isEmpty))) := by
  have ho := (Regex.Matcher.matchesIn_inOrder hm text.toList).filter (!·.isEmpty)
  rw [← applySpans_spanOf hr ho]
  have hs : f.spans text =
      ((f.matcher.matchesIn text.toList).filter (!·.isEmpty)).map (f.spanOf text.toList) := rfl
  rw [← hs]
  cases hspans : f.spans text with
  | nil =>
    simp only [Context.find?, hspans, Context.previewed, applySpans, List.drop_zero,
      String.ofList_toList]
  | cons s rest => simp only [Context.find?, hspans, Context.previewed, Context.spans]

end Finder

namespace Phrase

variable {p : Phrase} {f : Finder}

theorem compile_cases (h : p.compile = .ok f) :
    p.pattern.isEmpty = false ∧
      ((p.regex = true ∧ f.replacement = p.replacement.map .template ∧
          Regex.Matcher.compile { ignoreCase := p.ignoreCase } p.pattern = .ok f.matcher) ∨
        (p.regex = false ∧ f = ⟨.literal { ignoreCase := p.ignoreCase } p.pattern,
          p.replacement.map .verbatim⟩)) := by
  unfold compile at h
  split at h
  · cases h
  · rename_i hp
    refine ⟨by simpa using hp, ?_⟩
    split at h
    · rename_i hregex
      split at h
      · rename_i matcher hm
        cases h
        exact .inl ⟨hregex, rfl, hm⟩
      · cases h
    · rename_i hregex
      split at h
      · rename_i matcher hm
        cases h
        obtain rfl := Regex.Matcher.eq_literal hm
        exact .inr ⟨by simpa using hregex, rfl⟩
      · cases h

theorem matcher_sound (h : p.compile = .ok f) : f.matcher.Sound := by
  obtain ⟨-, ⟨-, -, hm⟩ | ⟨-, rfl⟩⟩ := compile_cases h
  · exact Regex.Matcher.compile_sound hm
  · exact Regex.Matcher.ofNode_sound _ _

theorem exists_replacement (h : p.compile = .ok f) (hr : p.replacement.isSome = true) :
    ∃ r, f.replacement = some r := by
  obtain ⟨text, ht⟩ := Option.isSome_iff_exists.mp hr
  obtain ⟨-, ⟨-, hf, -⟩ | ⟨-, rfl⟩⟩ := compile_cases h
  · exact ⟨.template text, by rw [hf, ht, Option.map_some]⟩
  · exact ⟨.verbatim text, by rw [ht, Option.map_some]⟩

theorem eq_literal (hp : p.regex = false) (h : p.compile = .ok f) : p.pattern ≠ "" ∧
    f = ⟨.literal { ignoreCase := p.ignoreCase } p.pattern, p.replacement.map .verbatim⟩ := by
  obtain ⟨hpattern, ⟨hregex, -⟩ | ⟨-, hf⟩⟩ := compile_cases h
  · rw [hp] at hregex
    cases hregex
  · refine ⟨?_, hf⟩
    intro hempty
    rw [hempty] at hpattern
    cases hpattern

theorem isEmpty_of_literal (h : p.compile = .ok f) (hp : p.regex = false) {text : List Char}
    {found : Regex.Match} (hm : found ∈ f.matcher.matchesIn text) : found.isEmpty = false := by
  obtain ⟨hpattern, rfl⟩ := eq_literal hp h
  have hstop := Regex.Matcher.stop_of_mem_literal hm
  have hlen : p.pattern.toList.length ≠ 0 := by simpa using hpattern
  simp only [Regex.Match.isEmpty, beq_eq_false_iff_ne]
  omega

end Phrase

/-- Applying a replacement is the edit that a search previews exactly where nothing would take the
place of a match of nothing; a literal phrase has no such match. -/
theorem replaceAll_eq_previewed_iff {p : Phrase} {f : Finder} (hp : p.compile = .ok f)
    (hr : p.replacement.isSome = true) (text : String) (id : Nat) :
    ∃ replaced, f.replaceAll text = .ok replaced ∧
      (replaced = Context.previewed text (Context.find? id text f) ↔
        ∀ found ∈ f.matcher.matchesIn text.toList, found.isEmpty = true →
          f.replacementOf text.toList found = some []) ∧
      (p.regex = false → replaced = Context.previewed text (Context.find? id text f)) := by
  have hm := Phrase.matcher_sound hp
  obtain ⟨r, hf⟩ := Phrase.exists_replacement hp hr
  have ho := Regex.Matcher.matchesIn_inOrder hm text.toList
  have hiff := Regex.substitute_eq_filter_iff text.toList (r.apply f.matcher text.toList) ho
  refine ⟨String.ofList (substitute text.toList (r.apply f.matcher text.toList) 0
    (f.matcher.matchesIn text.toList)), ?_, ?_, ?_⟩
  · simp only [Finder.replaceAll, hf]
  · rw [Finder.previewed_find? hm hf, String.ofList_inj, hiff]
    simp only [Finder.replacementOf, hf, Option.map_some, Option.some.injEq]
  · intro hregex
    rw [Finder.previewed_find? hm hf, String.ofList_inj, hiff]
    intro found hmem hempty
    rw [Phrase.isEmpty_of_literal hp hregex hmem] at hempty
    cases hempty

theorem replaceAll_eq_previewed_of_literal :
    let p : Phrase := { pattern := "teh", replacement := some "the" }
    let f : Finder := ⟨.literal {} "teh", some (.verbatim "the")⟩
    p.compile = .ok f ∧ p.regex = false ∧ p.replacement.isSome = true ∧
      f.replaceAll "teh end" = .ok (Context.previewed "teh end" (Context.find? 0 "teh end" f)) := by
  intro p f
  have hp : Phrase.compile { pattern := "teh", replacement := some "the" } = .ok f := rfl
  obtain ⟨replaced, hreplaced, -, hliteral⟩ := replaceAll_eq_previewed_iff hp rfl "teh end" 0
  exact ⟨hp, rfl, rfl, hliteral rfl ▸ hreplaced⟩

/-- A pattern that matches nothing between any two characters: a search shows no match, yet the
replacement fills every gap. -/
theorem replaceAll_ne_previewed :
    ∃ f, Phrase.compile { pattern := "x*", regex := true, replacement := some "-" } = .ok f ∧
      Context.find? 0 "ab" f = none ∧ f.replaceAll "ab" = .ok "-a-b-" := by
  exact ⟨_, rfl, rfl, rfl⟩

end TableSearch
