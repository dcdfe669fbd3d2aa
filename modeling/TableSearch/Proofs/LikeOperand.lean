import Mathlib.Data.List.TakeWhile
import TableSearch.Proofs.Encoding
import TableSearch.Sql.Table

/-!
# Substring patterns as operands of LIKE

The operator is compared with its rules, one for each form of a pattern. Escaping a needle makes a
pattern that matches what the needle spells and nothing else, so between percent signs it is found
where the needle is. Main statement: a substring pattern accepts a text exactly if the operator
matches its operand (`likeTruth_operand`).
-/
namespace TableSearch

theorem Text.contains_iff_infix {α : Type} [BEq α] [LawfulBEq α] {needle text : List α} :
    Text.contains needle text = true ↔ needle <:+: text := by
  induction text with
  | nil => simp [Text.contains]
  | cons c cs ih =>
    rw [Text.contains, Bool.or_eq_true, ih, List.isPrefixOf_iff_prefix, List.infix_cons_iff]

namespace Sql

/-- What a pattern matches. -/
inductive Matches (escape : Char) : List Char → List Char → Prop
  | nil : Matches escape [] []
  /-- A character after the escape character stands for itself. -/
  | escaped {p c : Char} {ps cs : List Char} : sameLetter p c = true → Matches escape ps cs →
    Matches escape (escape :: p :: ps) (c :: cs)
  /-- A percent sign stands for any characters. -/
  | run {ps cs : List Char} (found : List Char) : '%' ≠ escape → Matches escape ps cs →
    Matches escape ('%' :: ps) (found ++ cs)
  /-- An underscore stands for any one character. -/
  | any {ps cs : List Char} (c : Char) : '_' ≠ escape → Matches escape ps cs →
    Matches escape ('_' :: ps) (c :: cs)
  /-- Any other character stands for itself. -/
  | letter {p c : Char} {ps cs : List Char} : p ≠ escape → p ≠ '%' → p ≠ '_' →
    sameLetter p c = true → Matches escape ps cs → Matches escape (p :: ps) (c :: cs)

namespace Matches

variable {escape : Char}

theorem nil_iff {text : List Char} : Matches escape [] text ↔ text = [] := by
  constructor
  · rintro ⟨⟩
    rfl
  · rintro rfl
    exact .nil

theorem escaped_iff {p : Char} {ps text : List Char} :
    Matches escape (escape :: p :: ps) text ↔
      ∃ c cs, text = c :: cs ∧ sameLetter p c = true ∧ Matches escape ps cs := by
  constructor
  · intro h
    cases h with
    | escaped hp hps => exact ⟨_, _, rfl, hp, hps⟩
    | run found hne _ => exact absurd rfl hne
    | any c hne _ => exact absurd rfl hne
    | letter hne _ _ _ _ => exact absurd rfl hne
  · rintro ⟨c, cs, rfl, hp, hps⟩
    exact .escaped hp hps

theorem run_iff (hne : '%' ≠ escape) {ps text : List Char} :
    Matches escape ('%' :: ps) text ↔
      ∃ found rest, text = found ++ rest ∧ Matches escape ps rest := by
  constructor
  · intro h
    cases h with
    | escaped _ _ => exact absurd rfl hne
    | run found _ hps => exact ⟨found, _, rfl, hps⟩
    | letter _ hp _ _ _ => exact absurd rfl hp
  · rintro ⟨found, rest, rfl, hps⟩
    exact .run found hne hps

theorem one_iff {p : Char} (hne : p ≠ escape) (hp : p ≠ '%') {ps text : List Char} :
    Matches escape (p :: ps) text ↔
      ∃ c cs, text = c :: cs ∧ (p = '_' ∨ sameLetter p c = true) ∧ Matches escape ps cs := by
  constructor
  · intro h
    cases h with
    | escaped _ _ => exact absurd rfl hne
    | run found _ _ => exact absurd rfl hp
    | any c _ hps => exact ⟨c, _, rfl, .inl rfl, hps⟩
    | letter _ _ _ hc hps => exact ⟨_, _, rfl, .inr hc, hps⟩
  · rintro ⟨c, cs, rfl, hc, hps⟩
    by_cases hunder : p = '_'
    · subst hunder
      exact .any c hne hps
    · exact .letter hne hp hunder (hc.resolve_left hunder) hps

end Matches

theorem anySuffix_iff {matched : List Char → Bool} {text : List Char} :
    like.anySuffix matched text = true ↔
      ∃ found rest, text = found ++ rest ∧ matched rest = true := by
  induction text with
  | nil =>
    constructor
    · exact fun h => ⟨[], [], rfl, h⟩
    · rintro ⟨found, rest, htext, h⟩
      obtain ⟨rfl, rfl⟩ := List.append_eq_nil_iff.mp htext.symm
      exact h
  | cons c cs ih =>
    rw [like.anySuffix, Bool.or_eq_true, ih]
    constructor
    · rintro (h | ⟨found, rest, rfl, h⟩)
      · exact ⟨[], c :: cs, rfl, h⟩
      · exact ⟨c :: found, rest, rfl, h⟩
    · rintro ⟨_ | ⟨d, found⟩, rest, htext, h⟩
      · exact .inl (htext ▸ h)
      · obtain ⟨rfl, rfl⟩ := List.cons.inj htext
        exact .inr ⟨found, rest, rfl, h⟩

/-- The operator follows its rules. -/
theorem like_iff_matches {escape : Char} {pattern text : List Char} :
    like escape pattern text = true ↔ Matches escape pattern text := by
  -- an escaped character makes the pattern shorter by two
  induction hn : pattern.length using Nat.strongRecOn generalizing pattern text with
  | ind n ih =>
    subst hn
    cases pattern with
    | nil => rw [like, List.isEmpty_iff, Matches.nil_iff]
    | cons p ps =>
      have hps {text : List Char} : like escape ps text = true ↔ Matches escape ps text :=
        ih ps.length (Nat.lt_succ_self _) rfl
      rw [like.eq_def]
      dsimp only
      split
      · rename_i hp
        subst hp
        cases ps with
        | nil =>
          constructor
          · nofun
          · intro h
            cases h with
            | run _ hne _ => exact absurd rfl hne
            | any _ hne _ => exact absurd rfl hne
            | letter hne _ _ _ _ => exact absurd rfl hne
        | cons q qs =>
          rw [Matches.escaped_iff]
          cases text with
          | nil => simp
          | cons c cs =>
            have hqs : like p qs cs = true ↔ Matches p qs cs :=
              ih qs.length (Nat.lt_of_succ_lt (Nat.lt_succ_self _)) rfl
            simp [hqs, and_assoc]
      · rename_i hne
        split
        · rename_i hp
          subst hp
          simp only [Matches.run_iff hne, anySuffix_iff, hps]
        · rename_i hp
          rw [Matches.one_iff hne hp]
          cases text with
          | nil => simp
          | cons c cs => simp [hps, and_assoc]

end Sql

namespace LikePattern

open Sql

theorem matches_escapeOne {c : Char} {ps text : List Char} :
    Matches escapeChar (escapeOne c ++ ps) text ↔
      ∃ d cs, text = d :: cs ∧ d.toLower = c.toLower ∧ Matches escapeChar ps cs := by
  have hsame (d : Char) : sameLetter c d = true ↔ d.toLower = c.toLower := by
    rw [sameLetter, beq_iff_eq, eq_comm]
  unfold escapeOne
  split
  · simp only [List.cons_append, List.nil_append, Matches.escaped_iff, hsame]
  · rename_i hplain
    simp only [Bool.or_eq_true, beq_iff_eq, not_or] at hplain
    obtain ⟨⟨hpercent, hunder⟩, hescape⟩ := hplain
    simp only [List.cons_append, List.nil_append, Matches.one_iff hescape hpercent, hsame, hunder,
      false_or]

/-- The pattern of a needle matches what the needle spells in either case. -/
theorem matches_escaped {needle ps text : List Char} :
    Matches escapeChar (needle.flatMap escapeOne ++ ps) text ↔
      ∃ found rest, text = found ++ rest ∧ found.map Char.toLower = needle.map Char.toLower ∧
        Matches escapeChar ps rest := by
  induction needle generalizing text with
  | nil =>
    constructor
    · exact fun h => ⟨[], text, rfl, rfl, h⟩
    · rintro ⟨found, rest, rfl, hfound, h⟩
      rw [List.map_eq_nil_iff.mp hfound]
      exact h
  | cons c needle ih =>
    rw [List.flatMap_cons, List.append_assoc, matches_escapeOne]
    constructor
    · rintro ⟨d, cs, rfl, hd, h⟩
      obtain ⟨found, rest, rfl, hfound, h⟩ := ih.mp h
      exact ⟨d :: found, rest, rfl, by rw [List.map_cons, List.map_cons, hd, hfound], h⟩
    · rintro ⟨_ | ⟨d, found⟩, rest, rfl, hfound, h⟩
      · cases hfound
      · obtain ⟨hd, hfound⟩ := List.cons.inj hfound
        exact ⟨d, found ++ rest, rfl, hd, ih.mpr ⟨found, rest, rfl, hfound, h⟩⟩

theorem percent_ne_escape : '%' ≠ escapeChar := by decide

theorem matches_percent (text : List Char) : Matches escapeChar ['%'] text :=
  (Matches.run_iff percent_ne_escape).mpr ⟨text, [], (List.append_nil text).symm, .nil⟩

/-- A substring pattern accepts what its operand matches. -/
theorem accepts_iff_matches {p : LikePattern} {s : String} :
    p.accepts s = true ↔ Matches escapeChar p.operand.toList s.toList := by
  obtain ⟨anchor, needle⟩ := p
  unfold accepts operand escape Text.foldAscii
  cases anchor with
  | anywhere =>
    simp only [String.toList_append, String.toList_ofList, Text.contains_iff_infix,
      List.infix_map_iff]
    change _ ↔ Matches escapeChar ('%' :: (needle.toList.flatMap escapeOne ++ ['%'])) s.toList
    rw [Matches.run_iff percent_ne_escape]
    simp only [matches_escaped, matches_percent, and_true]
    constructor
    · rintro ⟨found, ⟨before, after, hs⟩, hfound⟩
      exact ⟨before, found ++ after, by rw [← hs, List.append_assoc], found, after, rfl,
        hfound.symm⟩
    · rintro ⟨before, _, hs, found, after, rfl, hfound⟩
      exact ⟨found, ⟨before, after, by rw [hs, List.append_assoc]⟩, hfound.symm⟩
  | start =>
    simp only [String.toList_append, String.toList_ofList, List.isPrefixOf_iff_prefix,
      List.prefix_map_iff]
    change _ ↔ Matches escapeChar (needle.toList.flatMap escapeOne ++ ['%']) s.toList
    simp only [matches_escaped, matches_percent, and_true]
    constructor
    · rintro ⟨found, ⟨after, hs⟩, hfound⟩
      exact ⟨found, after, hs.symm, hfound.symm⟩
    · rintro ⟨found, after, hs, hfound⟩
      exact ⟨found, ⟨after, hs.symm⟩, hfound.symm⟩
  | finish =>
    simp only [String.toList_append, String.toList_ofList, List.isSuffixOf_iff_suffix,
      List.suffix_map_iff]
    change _ ↔ Matches escapeChar ('%' :: needle.toList.flatMap escapeOne) s.toList
    rw [← List.append_nil (needle.toList.flatMap escapeOne)]
    simp only [Matches.run_iff percent_ne_escape, matches_escaped, Matches.nil_iff]
    constructor
    · rintro ⟨found, ⟨before, hs⟩, hfound⟩
      exact ⟨before, found, hs.symm, found, [], (List.append_nil found).symm, hfound.symm, rfl⟩
    · rintro ⟨before, _, hs, found, _, rfl, hfound, rfl⟩
      exact ⟨found, ⟨before, by rw [hs, List.append_nil]⟩, hfound.symm⟩

theorem notMem_operand {p : LikePattern} {c : Char} (hneedle : c ∉ p.needle.toList)
    (hpercent : c ≠ '%') (hescape : c ≠ escapeChar) : c ∉ p.operand.toList := by
  have hescaped : c ∉ (escape p.needle).toList := by
    rw [escape, String.toList_ofList, List.mem_flatMap]
    rintro ⟨d, hd, hc⟩
    unfold escapeOne at hc
    split at hc
    · rcases List.mem_cons.mp hc with hc | hc
      · exact hescape hc
      · exact hneedle (List.mem_singleton.mp hc ▸ hd)
    · exact hneedle (List.mem_singleton.mp hc ▸ hd)
  unfold operand
  cases p.anchor <;> simp [hescaped, hpercent]

theorem likeChars_ofString {s : String} (h : '\x00' ∉ s.toList) :
    likeChars (Cell.ofString s).toBytes = s.toList := by
  change (Text.Utf8.decode (Text.Utf8.encode s)).takeWhile (· != '\x00') = s.toList
  rw [Text.Utf8.decode_encode, List.takeWhile_eq_self_iff]
  intro c hc
  rw [bne_iff_ne]
  rintro rfl
  exact h hc

/-- For texts without a null character, the operator is true of a text and the operand of a
substring pattern exactly if the pattern accepts the text; and this is so exactly if the rules of
the operator match them. -/
theorem likeTruth_operand {p : LikePattern} {s : String} (hneedle : '\x00' ∉ p.needle.toList)
    (hs : '\x00' ∉ s.toList) :
    likeTruth (.ofString s) (.ofString p.operand) = some (p.accepts s) ∧
      (p.accepts s = true ↔ Matches escapeChar p.operand.toList s.toList) := by
  refine ⟨?_, accepts_iff_matches⟩
  have hoperand : '\x00' ∉ p.operand.toList := notMem_operand hneedle (by decide) (by decide)
  have hlike : like escapeChar p.operand.toList s.toList = p.accepts s := by
    rw [Bool.eq_iff_iff, like_iff_matches, accepts_iff_matches]
  rw [← hlike, ← likeChars_ofString hs, ← likeChars_ofString hoperand]
  rfl

/-- Wildcards and the escape character in a needle stand for themselves, and only ASCII letters
match in either case. -/
theorem likeTruth_operand_sample :
    let p : LikePattern := ⟨.finish, "É_5%\\"⟩
    '\x00' ∉ p.needle.toList ∧ '\x00' ∉ "aÉ_5%\\".toList ∧
      likeTruth (.ofString "aÉ_5%\\") (.ofString p.operand) = some true ∧
      likeTruth (.ofString "aé_5%\\") (.ofString p.operand) = some false := by
  intro p
  have hneedle : '\x00' ∉ p.needle.toList := by decide
  have hs : '\x00' ∉ "aÉ_5%\\".toList := by decide
  have hs' : '\x00' ∉ "aé_5%\\".toList := by decide
  refine ⟨hneedle, hs, (likeTruth_operand hneedle hs).1.trans ?_,
    (likeTruth_operand hneedle hs').1.trans ?_⟩
  · decide
  · decide

end LikePattern

end TableSearch
