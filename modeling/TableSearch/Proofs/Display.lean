import TableSearch.Context.Json
import TableSearch.Proofs.LiteralPhrase

/-!
# What is displayed of a context

A context holds its whole text. Its JSON shows at most 200 code points: of a value the first ones,
of a match a window in which the first match begins after at most 50 others, so that 150 code
points of it are seen, or all of a shorter one.
-/
namespace TableSearch

open Regex (slice)

/-- The JSON of a context shows the code points of a text from `start` to `stop`. -/
structure Context.ShowsWindow (c : Context) (text : String) (start stop : Nat) (shown : String) :
    Prop where
  crop : c.toJson.field? "crop" = some (.record [("start", .integer start), ("end", .integer stop)])
  value : c.toJson.field? "value" = some (.text shown)
  length : c.toJson.field? "value_length" = some (.integer text.length)
  start_lt : start < stop
  stop_le : stop ≤ text.length
  le_add : stop - start ≤ 200
  shown_eq : shown.toList = (text.toList.drop start).take (stop - start)

/-- The JSON of a context shows the beginnings of a text and its label. -/
structure Context.ShowsBeginning (c : Context) (text label : String) : Prop where
  value : ∃ shown, c.toJson.field? "value" = some (.text shown) ∧
    shown.toList = text.toList.take (min 200 text.length)
  label : ∃ shown, c.toJson.field? "value_label" = some (.text shown) ∧
    shown.toList = label.toList.take (min 200 label.length)
  length : c.toJson.field? "value_length" = some (.integer text.length)

/-- What a window shows of a match: that it begins there and its first 150 code points. -/
structure Span.ShownIn (s : Span) (start stop : Nat) (shown : String) : Prop where
  start_le : start ≤ s.position
  lt_stop : s.position < stop
  stop_le : s.position + min s.length 150 ≤ stop
  text_eq : (shown.toList.drop (s.position - start)).take (min s.length 150) =
    s.text.toList.take 150

theorem toList_restrict (s : String) : (restrict s).toList = s.toList.take (min 200 s.length) := by
  rw [restrict, String.toList_ofList, List.take_eq_take_iff, String.length_toList]
  change min 200 s.length = _
  omega

theorem take_drop_slice (text : List Char) {start stop position count : Nat}
    (hstart : start ≤ position) (hstop : position + count ≤ stop) :
    ((slice text start stop).drop (position - start)).take count =
      (text.drop position).take count := by
  have hposition : start + (position - start) = position := by omega
  have hcount : min count (stop - start - (position - start)) = count := by omega
  rw [slice, List.drop_take, List.drop_drop, hposition, List.take_take, hcount]

namespace Context

theorem showsBeginning_ofValue (id : Nat) (v : Value) (label : Option String) :
    (ofValue id v label).ShowsBeginning v.display (label.getD v.display) where
  value := ⟨_, rfl, toList_restrict _⟩
  label := ⟨_, rfl, toList_restrict _⟩
  length := rfl

/-- The window of a context begins 50 code points before its first span. -/
theorem toList_window (id : Nat) (text : String) (first : Span) (rest : List Span) :
    ((found id text (first :: rest)).window (found id text (first :: rest)).crop).toList =
      slice text.toList (first.position - 50) (min (first.position - 50 + 200) text.length) :=
  String.toList_ofList

theorem showsWindow_found (id : Nat) {text : String} {first : Span} (rest : List Span)
    (h : first.Covers text) :
    ∃ start stop shown, (found id text (first :: rest)).ShowsWindow text start stop shown ∧
      first.ShownIn start stop shown := by
  have hpos := h.length_pos
  have hstop := h.stop_le
  have hshown := toList_window id text first rest
  refine ⟨first.position - 50, min (first.position - 50 + 200) text.length, _,
    ⟨rfl, rfl, rfl, by omega, by omega, by omega, hshown⟩, by omega, by omega, by omega, ?_⟩
  rw [hshown, h.text_eq, List.take_take, Nat.min_comm]
  apply take_drop_slice
  · omega
  · omega

end Context

/-- Every match context shows a window of its text with the first match in it, and every value
context the beginnings of its value and label; the length is that of the whole text. -/
theorem display_sound :
    (∀ {p : Phrase} {f : Finder} {id : Nat} {text : String} {c : Context}, p.compile = .ok f →
      Context.find? id text f = some c →
      ∃ start stop shown first, c.ShowsWindow text start stop shown ∧
        c.spans.head? = some first ∧ first.ShownIn start stop shown) ∧
    ∀ (id : Nat) (v : Value) (label : Option String),
      (Context.ofValue id v label).ShowsBeginning v.display (label.getD v.display) := by
  refine ⟨?_, Context.showsBeginning_ofValue⟩
  intro p f id text c hp hc
  obtain ⟨rfl, hspans⟩ := Context.find?_cases hc
  obtain ⟨first, rest, hfirst⟩ := List.exists_cons_of_ne_nil hspans
  have hcovers : first.Covers text :=
    Finder.covers_of_mem_spans (Phrase.matcher_sound hp) (hfirst ▸ List.mem_cons_self)
  obtain ⟨start, stop, shown, hwindow, hshown⟩ := Context.showsWindow_found id rest hcovers
  rw [hfirst]
  exact ⟨start, stop, shown, first, hwindow, rfl, hshown⟩

/-- A text whose only `b` is its last code point, the 53rd. -/
def lateMatch : String := "aaaaaaaaaaaaaaaaaaaaaaaaaaaaaaaaaaaaaaaaaaaaaaaaaaaab"

/-- Its window leaves out the first two code points. -/
theorem display_sound_sample :
    ∃ f c shown first, Phrase.compile { pattern := "b" } = .ok f ∧
      Context.find? 0 lateMatch f = some c ∧ c.ShowsWindow lateMatch 2 53 shown ∧
      c.spans.head? = some first ∧ first.ShownIn 2 53 shown := by
  let f : Finder := ⟨.literal {} "b", none⟩
  have hf : Phrase.compile { pattern := "b" } = .ok f := rfl
  have hplaces : Regex.Occurrences "b".toList lateMatch.toList 0 [52] :=
    .next (by decide) (by decide) (by decide)
      (.none fun i hi => Regex.not_occursAt_of_length_lt (by decide) hi)
  obtain ⟨places, hoccurs, -, hspans⟩ := Phrase.exists_occurrences rfl hf rfl lateMatch
  obtain rfl := hoccurs.unique hplaces
  have hfind : Context.find? 0 lateMatch f =
      some (.found 0 lateMatch [Phrase.spanAt { pattern := "b" } 52]) := by
    rw [Context.find?, hspans]
    rfl
  obtain ⟨start, stop, shown, first, hwindow, hfirst, hshown⟩ := display_sound.1 hf hfind
  have hcrop : some (Json.record [("start", .integer 2), ("end", .integer 53)]) =
      some (.record [("start", .integer start), ("end", .integer stop)]) := hwindow.crop
  have hplace : start = 2 ∧ stop = 53 := by
    simp only [Option.some.injEq, Json.record.injEq, List.cons.injEq, Prod.mk.injEq,
      Json.integer.injEq] at hcrop
    omega
  obtain ⟨rfl, rfl⟩ := hplace
  exact ⟨f, _, shown, first, hf, hfind, hwindow, hfirst, hshown⟩

end TableSearch
