import TableSearch.Proofs.Encoding
import TableSearch.Proofs.Preview

/-!
# Spans

The spans of a text are the matches of the iteration that are not empty, one after the other
without overlap, each with the code points it covers. Where the places of matches are byte offsets,
counting code points from the beginning of one span to that of the next gives the same positions:
the cursor is at one character in bytes and in code points, whatever was passed over.
-/
namespace TableSearch

open Regex (slice InOrder)

namespace Text.Utf8

def offset (text : String) (position : Nat) : Nat :=
  (encode (String.ofList (text.toList.take position))).length

def between (text : String) (start stop : Nat) : List Char :=
  decode (((encode text).drop start).take (stop - start))

variable {text : String} {start stop : Nat}

theorem offset_zero (text : String) : offset text 0 = 0 := by
  simp [offset, encode_eq]

theorem encode_split (text : String) (position : Nat) :
    encode text = encode (String.ofList (text.toList.take position)) ++
      encode (String.ofList (text.toList.drop position)) := by
  simp only [encode_eq, String.toList_ofList, ← List.flatMap_append, List.take_append_drop]

theorem encode_drop (text : String) (position : Nat) :
    (encode text).drop (offset text position) =
      encode (String.ofList (text.toList.drop position)) := by
  rw [encode_split text position]
  exact List.drop_left

theorem offset_eq_add (h : start ≤ stop) :
    offset text stop =
      offset text start + (encode (String.ofList (slice text.toList start stop))).length := by
  have htake : text.toList.take stop =
      text.toList.take start ++ slice text.toList start stop := by
    have hstop : stop = start + (stop - start) := by omega
    rw [hstop, List.take_add, slice, Nat.add_sub_cancel_left]
  simp only [offset, encode_eq, String.toList_ofList, htake, List.flatMap_append,
    List.length_append]

/-- From the byte of one code point to that of another are the characters between them. -/
theorem between_offset (h : start ≤ stop) :
    between text (offset text start) (offset text stop) = slice text.toList start stop := by
  have hlength : offset text stop - offset text start =
      (encode (String.ofList (slice text.toList start stop))).length := by
    rw [offset_eq_add h, Nat.add_sub_cancel_left]
  have hdrop : String.ofList (text.toList.drop start) =
      String.ofList (slice text.toList start stop) ++ String.ofList (text.toList.drop stop) := by
    rw [← String.ofList_append, slice_append_drop h]
  have hsplit : encode (String.ofList (text.toList.drop start)) =
      encode (String.ofList (slice text.toList start stop)) ++
        encode (String.ofList (text.toList.drop stop)) := by
    rw [hdrop]
    simp only [encode_eq, String.toList_append, List.flatMap_append]
  rw [between, encode_drop, hlength, hsplit, List.take_left, decode_encode, String.toList_ofList]

end Text.Utf8

theorem length_slice {text : List Char} {start stop : Nat} (h : stop ≤ text.length) :
    (slice text start stop).length = stop - start := by
  rw [slice, List.length_take, List.length_drop]
  omega

namespace Finder

open Text.Utf8 (offset between)

/-- Where a walk through a text is, in bytes and in code points. -/
structure Cursor where
  byte : Nat := 0
  position : Nat := 0

/-- Go on to a byte and count the characters that are passed. -/
def Cursor.moveTo (cursor : Cursor) (text : String) (byte : Nat) : Cursor :=
  ⟨byte, cursor.position + (between text cursor.byte byte).length⟩

/-- The spans of matches that are given by the bytes they begin and end at. Code points are counted
from the beginning of one span to that of the next, and what matches nothing is passed over. -/
def walk (f : Finder) (text : String) : Cursor → List Regex.Match → List Span
  | _, [] => []
  | cursor, found :: rest =>
    let start := offset text found.start
    let whole := between text start (offset text found.stop)
    if whole.isEmpty then f.walk text cursor rest
    else
      let cursor := cursor.moveTo text start
      { position := cursor.position
        length := whole.length
        text := String.ofList whole
        replacement := (f.replacementOf text.toList found).map String.ofList
        captures := found.groups.map (groupText text.toList) } :: f.walk text cursor rest

/-- The cursor stays at one character, so the walk finds the spans of the matches. -/
theorem walk_eq (f : Finder) {text : String} {found : List Regex.Match} {cursor : Cursor}
    {start : Nat} (h : InOrder text.toList.length start found)
    (hbyte : cursor.byte = offset text cursor.position) (hstart : cursor.position ≤ start) :
    f.walk text cursor found = (found.filter (!·.isEmpty)).map (f.spanOf text.toList) := by
  induction found generalizing cursor start with
  | nil => rfl
  | cons first rest ih =>
    obtain ⟨hfirst, hrest⟩ := h
    have hwhole : between text (offset text first.start) (offset text first.stop) =
        slice text.toList first.start first.stop := Text.Utf8.between_offset hfirst.start_le
    have hlength : (slice text.toList first.start first.stop).length = first.stop - first.start :=
      length_slice hfirst.le_high
    have hlow : cursor.position ≤ first.start := Nat.le_trans hstart hfirst.low_le
    rw [walk, hwhole, List.filter_cons]
    cases hempty : first.isEmpty with
    | true =>
      have hstop := Regex.Match.stop_eq_of_isEmpty hempty
      rw [hstop, Nat.sub_self, List.length_eq_zero_iff] at hlength
      simp only [hstop, hlength, List.isEmpty_nil, if_true, Bool.not_true, Bool.false_eq_true,
        if_false]
      exact ih hrest hbyte (by omega)
    | false =>
      have hne : first.start ≠ first.stop := by simpa [Regex.Match.isEmpty] using hempty
      have hnil : (slice text.toList first.start first.stop).isEmpty = false := by
        rw [List.isEmpty_eq_false_iff, ← List.length_pos_iff, hlength]
        have := hfirst.start_le
        omega
      have hmove : cursor.moveTo text (offset text first.start) =
          ⟨offset text first.start, first.start⟩ := by
        rw [Cursor.moveTo, hbyte, Text.Utf8.between_offset hlow,
          length_slice (Nat.le_trans hfirst.start_le hfirst.le_high)]
        congr
        omega
      have hspans : f.walk text ⟨offset text first.start, first.start⟩ rest =
          (rest.filter (!·.isEmpty)).map (f.spanOf text.toList) := ih hrest rfl hfirst.start_le
      simp only [hnil, Bool.false_eq_true, if_false, hmove, hspans, hlength, Bool.not_false,
        if_true, List.map_cons]
      rfl

end Finder

namespace Regex

theorem InOrder.within_of_mem {high start : Nat} {found : List Match} (h : InOrder high start found)
    {m : Match} (hm : m ∈ found) : m.Within start high := by
  induction found generalizing start with
  | nil => cases hm
  | cons first rest ih =>
    rcases List.mem_cons.mp hm with rfl | hm
    · exact h.1
    · exact (ih h.2 hm).mono (Nat.le_trans h.1.low_le h.1.start_le)

theorem InOrder.pairwise {high start : Nat} {found : List Match} (h : InOrder high start found) :
    found.Pairwise fun a b => a.stop ≤ b.start := by
  induction found generalizing start with
  | nil => exact .nil
  | cons first rest ih =>
    refine List.pairwise_cons.mpr ⟨?_, ih h.2⟩
    intro m hm
    exact (h.2.within_of_mem hm).low_le

end Regex

/-- A span that covers code points of a text. -/
structure Span.Covers (text : String) (s : Span) : Prop where
  length_pos : 0 < s.length
  stop_le : s.position + s.length ≤ text.length
  length_eq : s.text.length = s.length
  text_eq : s.text.toList = (text.toList.drop s.position).take s.length

/-- A span before another, which it does not overlap. -/
def Span.Before (s t : Span) : Prop := s.position < t.position ∧ s.position + s.length ≤ t.position

namespace Finder

variable {f : Finder} {text : String}

theorem stop_spanOf (f : Finder) (text : String) {found : Regex.Match}
    (h : found.start ≤ found.stop) :
    (f.spanOf text.toList found).position + (f.spanOf text.toList found).length = found.stop :=
  Nat.add_sub_cancel' h

theorem length_spanOf_pos (f : Finder) (text : String) {found : Regex.Match}
    (h : found.start ≤ found.stop) (hempty : found.isEmpty = false) :
    0 < (f.spanOf text.toList found).length := by
  have hne : found.start ≠ found.stop := by simpa [Regex.Match.isEmpty] using hempty
  change 0 < found.stop - found.start
  omega

theorem spanOf_covers {found : Regex.Match} {low : Nat}
    (h : found.Within low text.toList.length) (hempty : found.isEmpty = false) :
    (f.spanOf text.toList found).Covers text where
  length_pos := length_spanOf_pos f text h.start_le hempty
  stop_le := by
    rw [stop_spanOf f text h.start_le, ← String.length_toList]
    exact h.le_high
  length_eq := by
    rw [← String.length_toList, spanOf, String.toList_ofList, length_slice h.le_high]
  text_eq := String.toList_ofList

variable (hm : f.matcher.Sound)
include hm

theorem inOrder_spans (text : String) : InOrder text.toList.length 0
    ((f.matcher.matchesIn text.toList).filter (!·.isEmpty)) :=
  (Regex.Matcher.matchesIn_inOrder hm text.toList).filter _

theorem covers_of_mem_spans {s : Span} (h : s ∈ f.spans text) : s.Covers text := by
  obtain ⟨found, hfound, rfl⟩ := List.mem_map.mp h
  have hempty : found.isEmpty = false := by simpa using (List.mem_filter.mp hfound).2
  exact spanOf_covers ((inOrder_spans hm text).within_of_mem hfound) hempty

theorem spans_pairwise (text : String) : (f.spans text).Pairwise Span.Before := by
  refine List.pairwise_map.mpr ((inOrder_spans hm text).pairwise.imp_of_mem ?_)
  intro a b ha _ hab
  have hwithin := (inOrder_spans hm text).within_of_mem ha
  have hempty : a.isEmpty = false := by simpa using (List.mem_filter.mp ha).2
  have hlength := length_spanOf_pos f text hwithin.start_le hempty
  have hstop := stop_spanOf f text hwithin.start_le
  have hposition : (f.spanOf text.toList b).position = b.start := rfl
  constructor <;> omega

theorem map_spans (text : String) :
    (f.spans text).map (fun s => (s.position, s.position + s.length)) =
      ((f.matcher.matchesIn text.toList).filter fun m => m.start != m.stop).map
        fun m => (m.start, m.stop) := by
  have hplace : ∀ m ∈ (f.matcher.matchesIn text.toList).filter (!·.isEmpty),
      ((f.spanOf text.toList m).position,
        (f.spanOf text.toList m).position + (f.spanOf text.toList m).length) =
        (m.start, m.stop) := by
    intro m hmem
    rw [stop_spanOf f text ((inOrder_spans hm text).within_of_mem hmem).start_le]
    rfl
  rw [spans, List.map_map]
  exact List.map_congr_left hplace

theorem walk_matchesIn (text : String) :
    f.walk text {} (f.matcher.matchesIn text.toList) = f.spans text :=
  walk_eq f (Regex.Matcher.matchesIn_inOrder hm text.toList) (Text.Utf8.offset_zero text).symm
    (Nat.le_refl 0)

end Finder

theorem Context.find?_cases {id : Nat} {text : String} {f : Finder} {c : Context}
    (h : find? id text f = some c) : c = found id text (f.spans text) ∧ f.spans text ≠ [] := by
  unfold find? at h
  split at h
  · cases h
  · rename_i hspans
    exact ⟨(Option.some.inj h).symm, fun hnil => hspans hnil⟩

/-- Nothing is found exactly if every match of the iteration is empty. -/
theorem Context.find?_eq_none_iff {id : Nat} {text : String} {f : Finder} :
    find? id text f = none ↔ ∀ m ∈ f.matcher.matchesIn text.toList, m.start = m.stop := by
  have hspans : find? id text f = none ↔ f.spans text = [] := by
    unfold find?
    split
    · rename_i hnil
      simp only [hnil]
    · rename_i hne
      simp only [reduceCtorEq, false_iff]
      exact fun hnil => hne hnil
  rw [hspans, Finder.spans, List.map_eq_nil_iff, List.filter_eq_nil_iff]
  simp only [Regex.Match.isEmpty, Bool.not_eq_true, Bool.not_eq_false', beq_iff_eq]

/-- Only a text with a match that is not empty has a context. Its spans cover what they show of the
text, follow one another without overlap, and lie where those matches lie. A walk that is given
bytes and counts code points on the way finds the same spans. -/
theorem spans_of_find? {p : Phrase} {f : Finder} (hp : p.compile = .ok f) (id : Nat)
    (text : String) :
    (Context.find? id text f = none ↔
        ∀ m ∈ f.matcher.matchesIn text.toList, m.start = m.stop) ∧
      ∀ c, Context.find? id text f = some c →
        c.content = text ∧ c.spans ≠ [] ∧
          (∀ s ∈ c.spans, s.Covers text) ∧ c.spans.Pairwise Span.Before ∧
          c.spans.map (fun s => (s.position, s.position + s.length)) =
            ((f.matcher.matchesIn text.toList).filter fun m => m.start != m.stop).map
              (fun m => (m.start, m.stop)) ∧
          c.spans = f.walk text {} (f.matcher.matchesIn text.toList) := by
  have hm := Phrase.matcher_sound hp
  refine ⟨Context.find?_eq_none_iff, ?_⟩
  intro c hc
  obtain ⟨rfl, hspans⟩ := Context.find?_cases hc
  exact ⟨rfl, hspans, fun s hs => Finder.covers_of_mem_spans hm hs, Finder.spans_pairwise hm text,
    Finder.map_spans hm text, (Finder.walk_matchesIn hm text).symm⟩

/-- A pattern that also matches nothing, before, between and after its two spans, the first of them
after a character of two bytes. -/
theorem spans_of_find?_sample :
    ∃ f c, Phrase.compile { pattern := "b*", regex := true } = .ok f ∧
      Context.find? 0 "éxbbyb" f = some c ∧
      c.spans.map (fun s => (s.position, s.length, s.text)) = [(2, 2, "bb"), (5, 1, "b")] ∧
      (∀ s ∈ c.spans, s.Covers "éxbbyb") ∧ c.spans.Pairwise Span.Before := by
  obtain ⟨-, -, hcovers, hbefore, -, -⟩ :=
    (spans_of_find? (p := { pattern := "b*", regex := true }) rfl 0 "éxbbyb").2 _ rfl
  exact ⟨_, _, rfl, rfl, rfl, hcovers, hbefore⟩

end TableSearch
