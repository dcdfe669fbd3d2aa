import TableSearch.Proofs.Regex.Program
import TableSearch.Regex.Template

/-!
# Matches come in order

While ways through a program advance, every position they noted lies between where the search began
and where they are, and a way that accepts noted the position it accepts at as the end. A match
therefore lies between where it was looked for and the end of the text, and the matches of an
iteration follow one another without overlapping.
-/
namespace TableSearch.Regex

/-- All noted positions lie between two positions. -/
structure Slots.Within (low high : Nat) (slots : Slots) : Prop where
  two_le_size : 2 ≤ slots.size
  bounds : ∀ {i v : Nat}, slots[i]? = some (some v) → low ≤ v ∧ v ≤ high

/-- The noted positions of a way that accepts at `high`. -/
structure Slots.Ended (low high : Nat) (slots : Slots) : Prop where
  within : Slots.Within low high slots
  last : slots[1]? = some (some high)

/-- A way waiting at `high`; if it accepts next, it has noted the end. -/
structure Thread.Sound (low high : Nat) (t : Thread) : Prop where
  within : Slots.Within low high t.slots
  last : t.address = 0 → t.slots[1]? = some (some high)

def Frontier.Sound (low high : Nat) (f : Frontier) : Prop :=
  ∀ t ∈ f.threads, Thread.Sound low high t

namespace Slots

variable {low high : Nat} {slots : Slots}

theorem Within.mono (h : Within low high slots) {high' : Nat} (hh : high ≤ high') :
    Within low high' slots where
  two_le_size := h.two_le_size
  bounds hi := by
    have := h.bounds hi
    omega

theorem Within.save (h : Within low high slots) (hl : low ≤ high) (slot : Nat) :
    Within low high (slots.setIfInBounds slot (some high)) where
  two_le_size := by
    simpa only [Array.size_setIfInBounds] using h.two_le_size
  bounds hi := by
    rw [Array.getElem?_setIfInBounds] at hi
    split at hi
    · split at hi
      · cases hi
        exact ⟨hl, Nat.le_refl _⟩
      · cases hi
    · exact h.bounds hi

theorem Within.save_end (h : Within low high slots) :
    (slots.setIfInBounds 1 (some high))[1]? = some (some high) := by
  have := h.two_le_size
  rw [Array.getElem?_setIfInBounds_self_of_lt (by omega)]

theorem within_replicate (low high groups : Nat) :
    Within low high (Array.replicate (2 * groups + 2) none) where
  two_le_size := by
    simp
  bounds hi := by
    rw [Array.getElem?_replicate] at hi
    split at hi <;> cases hi

end Slots

theorem Frontier.sound_empty (low high : Nat) (code : Code) :
    (Frontier.empty code).Sound low high := by
  intro t ht
  simp [Frontier.empty] at ht

theorem Frontier.Sound.push {low high : Nat} {f : Frontier} (h : f.Sound low high) {t : Thread}
    (ht : t.Sound low high) : Frontier.Sound low high { f with threads := f.threads.push t } := by
  intro u hu
  rcases Array.mem_push.mp hu with hu | rfl
  · exact h u hu
  · exact ht

section Steps

variable {code : Code} (hc : code.Closed) (before after : Option Char) {low position : Nat}
include hc

theorem follow_sound (hl : low ≤ position) (fuel : Nat) {address : Nat} {slots : Slots}
    {f : Frontier} (hs : Slots.Within low position slots)
    (hz : address = 0 → slots[1]? = some (some position)) (hf : f.Sound low position) :
    (follow code before after position fuel address slots f).Sound low position := by
  induction fuel generalizing address slots f with
  | zero => exact hf
  | succ fuel ih =>
    simp only [follow]
    split
    · exact hf
    · have hf' : Frontier.Sound low position
          { f with reached := f.reached.setIfInBounds address true } := hf
      split
      · exact hf'
      · rename_i l next hi
        have hn : next ≠ 0 := hc.next_ne_zero hi (by simp) (by simp [Inst.targets])
        split
        · exact ih hs (fun h => absurd h hn) hf'
        · exact hf'
      · rename_i slot next hi
        refine ih (hs.save hl slot) ?_ hf'
        rintro rfl
        -- address 0 is reached from the instruction that notes the end alone
        have he := hc.save_of_target hi (by simp [Inst.targets])
        cases he
        exact hs.save_end
      · rename_i first second hi
        have h1 : first ≠ 0 := hc.next_ne_zero hi (by simp) (by simp [Inst.targets])
        have h2 : second ≠ 0 := hc.next_ne_zero hi (by simp) (by simp [Inst.targets])
        exact ih hs (fun h => absurd h h2) (ih hs (fun h => absurd h h1) hf')
      · exact hf'.push ⟨hs, hz⟩

/-- One character further, all ways are sound again, and one that accepted noted the end. -/
theorem advance_sound (hl : low ≤ position) (c : Char) {ts : List Thread} {f : Frontier}
    (hts : ∀ t ∈ ts, Thread.Sound low position t) (hf : f.Sound low (position + 1)) :
    (advance code c after position ts f).1.Sound low (position + 1) ∧
      ∀ slots, (advance code c after position ts f).2 = some slots →
        Slots.Ended low position slots := by
  induction ts generalizing f with
  | nil => exact ⟨hf, fun slots h => by cases h⟩
  | cons t ts ih =>
    have ht := hts t List.mem_cons_self
    have hrest := fun u hu => hts u (List.mem_cons_of_mem t hu)
    simp only [advance]
    split
    · rename_i hi
      refine ⟨hf, ?_⟩
      intro slots h
      cases h
      exact ⟨ht.within, ht.last (hc.accept_zero hi)⟩
    · rename_i s next hi
      have hn : next ≠ 0 := hc.next_ne_zero hi (by simp) (by simp [Inst.targets])
      split
      · apply ih hrest
        exact follow_sound hc _ _ (by omega) _ (ht.within.mono (by omega))
          (fun h => absurd h hn) hf
      · exact ih hrest hf
    · exact ih hrest hf

theorem accepted_sound {ts : List Thread} (hts : ∀ t ∈ ts, Thread.Sound low position t)
    {slots : Slots} (h : accepted code ts = some slots) : Slots.Ended low position slots := by
  obtain ⟨t, ht, rfl⟩ := Option.map_eq_some_iff.mp h
  have hs := hts t (List.mem_of_find?_eq_some ht)
  have ha := List.find?_some ht
  split at ha
  · rename_i hi
    exact ⟨hs.within, hs.last (hc.accept_zero hi)⟩
  · cases ha

/-- What a run accepts ends within the rest of the text. -/
theorem run_sound (hl : low ≤ position) {ts : List Thread} {best : Option Slots} {cs : List Char}
    (hts : ∀ t ∈ ts, Thread.Sound low position t)
    (hbest : ∀ slots, best = some slots → ∃ high ≤ position, Slots.Ended low high slots)
    {slots : Slots} (h : run code position ts best cs = some slots) :
    ∃ high ≤ position + cs.length, Slots.Ended low high slots := by
  induction cs generalizing position ts best with
  | nil =>
    cases ts with
    | nil => exact hbest slots h
    | cons t ts =>
      simp only [run, Option.orElse_eq_orElse, Option.orElse_eq_or, Option.or_eq_some_iff] at h
      rcases h with h | ⟨-, h⟩
      · exact ⟨position, Nat.le_refl _, accepted_sound hc hts h⟩
      · exact hbest slots h
  | cons c cs ih =>
    cases ts with
    | nil =>
      obtain ⟨high, hh, he⟩ := hbest slots (by simpa only [run] using h)
      exact ⟨high, by omega, he⟩
    | cons t ts =>
      obtain ⟨hf, hfound⟩ := advance_sound hc cs.head? hl c hts
        (Frontier.sound_empty low (position + 1) code)
      simp only [run] at h
      have hbest' : ∀ slots, ((advance code c cs.head? position (t :: ts)
          (Frontier.empty code)).2 <|> best) = some slots →
          ∃ high ≤ position + 1, Slots.Ended low high slots := by
        intro slots hs
        simp only [Option.orElse_eq_orElse, Option.orElse_eq_or, Option.or_eq_some_iff] at hs
        rcases hs with hs | ⟨-, hs⟩
        · exact ⟨position, by omega, hfound slots hs⟩
        · obtain ⟨high, hh, he⟩ := hbest slots hs
          exact ⟨high, by omega, he⟩
      obtain ⟨high, hh, he⟩ :=
        ih (by omega) (fun u hu => hf u (Array.mem_toList_iff.mp hu)) hbest' h
      simp only [List.length_cons]
      exact ⟨high, by omega, he⟩

end Steps

/-- A match lies between two positions. -/
structure Match.Within (low high : Nat) (found : Match) : Prop where
  low_le : low ≤ found.start
  start_le : found.start ≤ found.stop
  le_high : found.stop ≤ high

theorem Match.Within.mono {low high low' : Nat} {found : Match} (h : found.Within low high)
    (hl : low' ≤ low) : found.Within low' high :=
  ⟨Nat.le_trans hl h.low_le, h.start_le, h.le_high⟩

/-- Matches that follow one another from a position on, up to the end of a text. -/
def InOrder (stop : Nat) : Nat → List Match → Prop
  | _, [] => True
  | start, found :: rest => found.Within start stop ∧ InOrder stop found.stop rest

theorem getElem?_of_groupOf {slots : Slots} {index start stop : Nat}
    (h : groupOf slots index = some (start, stop)) :
    slots[2 * index]? = some (some start) ∧ slots[2 * index + 1]? = some (some stop) := by
  simp only [groupOf, Array.getD_eq_getD_getElem?, Option.bind_eq_bind, Option.pure_def,
    Option.bind_eq_some_iff, Option.some.injEq, Prod.mk.injEq] at h
  obtain ⟨a, ha, b, hb, rfl, rfl⟩ := h
  constructor
  · cases hs : slots[2 * index]? <;> simp_all
  · cases hs : slots[2 * index + 1]? <;> simp_all

namespace Matcher

variable {m : Matcher}

theorem matchAt_within (hm : m.Sound) {before : Option Char} {position : Nat} {cs : List Char}
    {found : Match} (h : m.matchAt before position cs = some found) :
    found.Within position (position + cs.length) := by
  obtain ⟨slots, hrun, hg⟩ := Option.bind_eq_some_iff.mp h
  obtain ⟨⟨start, stop⟩, hgroup, rfl⟩ := Option.map_eq_some_iff.mp hg
  have hf := follow_sound hm.closed before cs.head? (Nat.le_refl position) m.code.size
    (Slots.within_replicate position position m.groups)
    (fun h => absurd h hm.start_ne_zero) (Frontier.sound_empty position position m.code)
  obtain ⟨high, hh, he⟩ := run_sound hm.closed (Nat.le_refl position)
    (fun t ht => hf t (Array.mem_toList_iff.mp ht)) (by simp) hrun
  obtain ⟨h0, h1⟩ := getElem?_of_groupOf hgroup
  have hstop : high = stop := by
    rw [he.last] at h1
    simpa using h1
  subst hstop
  have hb := he.within.bounds h0
  exact ⟨hb.1, hb.2, hh⟩

theorem findFrom_within (hm : m.Sound) {before : Option Char} {position : Nat} {cs : List Char}
    {found : Match} (h : m.findFrom before position cs = some found) :
    found.Within position (position + cs.length) := by
  induction cs generalizing before position with
  | nil => exact matchAt_within hm h
  | cons c cs ih =>
    simp only [findFrom] at h
    split at h
    · rename_i hat
      cases h
      exact matchAt_within hm hat
    · have hw := ih h
      simp only [List.length_cons]
      exact ⟨by have := hw.low_le; omega, hw.start_le, by have := hw.le_high; omega⟩

theorem find_within (hm : m.Sound) {text : List Char} {start : Nat} {found : Match}
    (h : m.find text start = some found) : found.Within start text.length := by
  simp only [find] at h
  split at h
  · have hw := findFrom_within hm h
    rw [List.length_drop] at hw
    exact ⟨hw.low_le, hw.start_le, by have := hw.le_high; omega⟩
  · cases h

theorem matchesFrom_inOrder (hm : m.Sound) (text : List Char) (fuel start : Nat)
    (last : Option Nat) : InOrder text.length start (m.matchesFrom text fuel start last) := by
  induction fuel generalizing start last with
  | zero => trivial
  | succ fuel ih =>
    simp only [matchesFrom]
    split
    · trivial
    · rename_i found hfound
      refine ⟨?_, ih found.stop (some found.stop)⟩
      split at hfound
      · rename_i first hfirst
        split at hfound
        · exact (find_within hm hfound).mono (Nat.le_succ start)
        · cases hfound
          exact find_within hm hfirst
      · cases hfound

theorem matchesIn_inOrder (hm : m.Sound) (text : List Char) :
    InOrder text.length 0 (m.matchesIn text) :=
  matchesFrom_inOrder hm text _ 0 none

theorem exists_matchAt_of_findFrom {before : Option Char} {position : Nat} {cs : List Char}
    {found : Match} (h : m.findFrom before position cs = some found) :
    ∃ before position cs, m.matchAt before position cs = some found := by
  induction cs generalizing before position with
  | nil => exact ⟨before, position, [], h⟩
  | cons c cs ih =>
    simp only [findFrom] at h
    split at h
    · rename_i hat
      cases h
      exact ⟨before, position, c :: cs, hat⟩
    · exact ih h

theorem exists_find_of_mem_matchesFrom {text : List Char} {fuel start : Nat} {last : Option Nat}
    {found : Match} (h : found ∈ m.matchesFrom text fuel start last) :
    ∃ start, m.find text start = some found := by
  induction fuel generalizing start last with
  | zero => simp [matchesFrom] at h
  | succ fuel ih =>
    simp only [matchesFrom] at h
    split at h
    · cases h
    · rename_i next hnext
      rcases List.mem_cons.mp h with rfl | h
      · split at hnext
        · rename_i first hfirst
          split at hnext
          · exact ⟨start + 1, hnext⟩
          · cases hnext
            exact ⟨start, hfirst⟩
        · cases hnext
      · exact ih h

theorem exists_matchAt_of_mem_matchesIn {text : List Char} {found : Match}
    (h : found ∈ m.matchesIn text) :
    ∃ before position cs, m.matchAt before position cs = some found := by
  obtain ⟨start, hf⟩ := exists_find_of_mem_matchesFrom h
  simp only [find] at hf
  split at hf
  · exact exists_matchAt_of_findFrom hf
  · cases hf

theorem matchesIn_eq_nil_iff (text : List Char) :
    m.matchesIn text = [] ↔ m.isMatch text = false := by
  simp only [matchesIn, matchesFrom, isMatch]
  cases h : m.find text 0 with
  | none => simp
  | some found => simp

end Matcher

end TableSearch.Regex
