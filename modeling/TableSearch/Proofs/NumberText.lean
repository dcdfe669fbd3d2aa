import Mathlib.Data.List.TakeWhile
import TableSearch.Proofs.DecimalForm
import TableSearch.Value.Kind

/-!
# Numbers in text

What is seen as a number and what is read as an integer are two forms of text, each with an optional
sign and with or without blanks around it. Main statement: the kind of a text is number exactly if
it has the one form, and it is read as an integer exactly if it has the other and denotes a 64-bit
integer; what is read is also seen (`numbers_read`).
-/
namespace TableSearch

namespace Text

/-- One ASCII digit or more. -/
def Digits (cs : List Char) : Prop := cs ≠ [] ∧ ∀ c ∈ cs, c.isDigit = true

/-- An optional sign, and the factor that it stands for. -/
inductive Sign : List Char → Int → Prop
  | none : Sign [] 1
  | plus : Sign ['+'] 1
  | minus : Sign ['-'] (-1)

/-- An optional sign and digits, and the integer that they denote. -/
inductive Denotes : List Char → Int → Prop
  | signed {sign : List Char} {factor : Int} {digits : List Char} (hsign : Sign sign factor)
    (hdigits : Digits digits) : Denotes (sign ++ digits) (factor * Nat.ofDigitChars 10 digits 0)

/-- An optional sign, digits, and optionally a point and digits. -/
inductive Number : List Char → Prop
  | whole {sign : List Char} {factor : Int} {digits : List Char} (hsign : Sign sign factor)
    (hdigits : Digits digits) : Number (sign ++ digits)
  | decimal {sign : List Char} {factor : Int} {digits fraction : List Char}
    (hsign : Sign sign factor) (hdigits : Digits digits) (hfraction : Digits fraction) :
    Number (sign ++ (digits ++ '.' :: fraction))

/-- What a text is between the blanks around it. -/
structure Trimmed (cs body : List Char) : Prop where
  around : ∃ left right, cs = left ++ body ++ right ∧
    (∀ c ∈ left, isBlank c = true) ∧ ∀ c ∈ right, isBlank c = true
  head : ∀ c ∈ body.head?, isBlank c = false
  last : ∀ c ∈ body.getLast?, isBlank c = false

section Blanks

variable {cs body : List Char}

theorem dropWhile_isBlank {left rest : List Char} (hleft : ∀ c ∈ left, isBlank c = true)
    (hrest : ∀ c ∈ rest.head?, isBlank c = false) :
    (left ++ rest).dropWhile isBlank = rest := by
  rw [List.dropWhile_append_of_pos hleft, dropWhile_of_head hrest]

theorem head_dropWhile (cs : List Char) :
    ∀ c ∈ (cs.dropWhile isBlank).head?, isBlank c = false := by
  intro c hc
  have hhead := List.head?_dropWhile_not isBlank cs
  rw [hc] at hhead
  exact hhead

theorem trimmed_trimList (cs : List Char) : Trimmed cs (trimList cs) := by
  have hleft : cs.takeWhile isBlank ++ cs.dropWhile isBlank = cs :=
    List.takeWhile_append_dropWhile
  have hright : trimList cs ++ ((cs.dropWhile isBlank).reverse.takeWhile isBlank).reverse =
      cs.dropWhile isBlank := by
    rw [trimList, ← List.reverse_append, List.takeWhile_append_dropWhile, List.reverse_reverse]
  refine ⟨⟨cs.takeWhile isBlank, ((cs.dropWhile isBlank).reverse.takeWhile isBlank).reverse,
    ?_, fun c => List.mem_takeWhile_imp, ?_⟩, ?_, ?_⟩
  · rw [List.append_assoc, hright, hleft]
  · intro c hc
    exact List.mem_takeWhile_imp (List.mem_reverse.mp hc)
  · intro c hc
    apply head_dropWhile cs
    rw [← hright, List.head?_append, hc]
    rfl
  · intro c hc
    rw [trimList, List.getLast?_reverse] at hc
    exact head_dropWhile _ c hc

theorem Trimmed.trimList_eq (h : Trimmed cs body) : trimList cs = body := by
  obtain ⟨⟨left, right, rfl, hleft, hright⟩, hhead, hlast⟩ := h
  cases body with
  | nil =>
    have hblank : (left ++ right).dropWhile isBlank = [] := by
      rw [List.dropWhile_eq_nil_iff]
      intro c hc
      exact (List.mem_append.mp hc).elim (hleft c) (hright c)
    rw [List.append_nil, trimList, hblank]
    rfl
  | cons c body =>
    have hdrop : (right.reverse ++ (c :: body).reverse).dropWhile isBlank = (c :: body).reverse :=
      dropWhile_isBlank (fun c hc => hright c (List.mem_reverse.mp hc))
        (by rwa [List.head?_reverse])
    rw [trimList, List.append_assoc, dropWhile_isBlank hleft (by simpa using hhead),
      List.reverse_append, hdrop, List.reverse_reverse]

theorem exists_trimmed_iff {p : List Char → Prop} :
    (∃ body, Trimmed cs body ∧ p body) ↔ p (trimList cs) := by
  constructor
  · rintro ⟨body, hbody, hp⟩
    rwa [hbody.trimList_eq]
  · intro hp
    exact ⟨_, trimmed_trimList cs, hp⟩

end Blanks

section Integers

variable {cs : List Char} {n : Int}

theorem readNat?_eq_some_iff {k : Nat} :
    readNat? cs = some k ↔ Digits cs ∧ k = Nat.ofDigitChars 10 cs 0 := by
  unfold readNat? Digits
  split
  · rename_i h
    simp only [Bool.and_eq_true, Bool.not_eq_true', List.isEmpty_eq_false_iff,
      List.all_eq_true] at h
    rw [Option.some.injEq, eq_comm]
    exact (and_iff_right h).symm
  · rename_i h
    constructor
    · nofun
    · rintro ⟨⟨hne, hdigits⟩, -⟩
      apply absurd _ h
      simpa [hne] using hdigits

theorem Digits.exists_cons (h : Digits cs) : ∃ c ds, cs = c :: ds ∧ c.isDigit = true := by
  obtain ⟨c, ds, rfl⟩ := List.exists_cons_of_ne_nil h.1
  exact ⟨c, ds, rfl, h.2 c List.mem_cons_self⟩

/-- What is read as an integer is a sign and digits. -/
theorem readInteger?_eq_some_iff : readInteger? cs = some n ↔ Denotes cs n := by
  constructor
  · intro h
    unfold readInteger? at h
    split at h
    · obtain ⟨_, hread, rfl⟩ := Option.map_eq_some_iff.mp h
      obtain ⟨k, hk, hcast⟩ := Option.bind_eq_some_iff.mp hread
      cases hcast
      obtain ⟨hdigits, rfl⟩ := readNat?_eq_some_iff.mp hk
      have hdenotes := Denotes.signed .minus hdigits
      rwa [Int.neg_one_mul] at hdenotes
    · obtain ⟨k, hk, rfl⟩ := Option.map_eq_some_iff.mp h
      obtain ⟨hdigits, rfl⟩ := readNat?_eq_some_iff.mp hk
      have hdenotes := Denotes.signed .plus hdigits
      rwa [Int.one_mul] at hdenotes
    · obtain ⟨k, hk, rfl⟩ := Option.map_eq_some_iff.mp h
      obtain ⟨hdigits, rfl⟩ := readNat?_eq_some_iff.mp hk
      have hdenotes := Denotes.signed .none hdigits
      rwa [Int.one_mul] at hdenotes
  · rintro ⟨hsign, hdigits⟩
    have hread := readNat?_eq_some_iff.mpr ⟨hdigits, rfl⟩
    cases hsign with
    | none =>
      obtain ⟨c, ds, rfl, hc⟩ := hdigits.exists_cons
      rw [List.nil_append, readInteger?_of_digit hc, hread, Int.one_mul]
      rfl
    | plus =>
      rw [List.singleton_append, readInteger?, hread, Int.one_mul]
      rfl
    | minus =>
      rw [List.singleton_append, readInteger?, hread, Int.neg_one_mul]
      rfl

theorem readInt64?_eq_some_iff {s : String} {n : Int64} :
    readInt64? s = some n ↔ Denotes s.toList n.toInt := by
  rw [readInt64?, Option.bind_eq_some_iff]
  constructor
  · rintro ⟨k, hk, hn⟩
    rw [toInt64?_eq_some_iff.mp hn]
    exact readInteger?_eq_some_iff.mp hk
  · intro h
    exact ⟨n.toInt, readInteger?_eq_some_iff.mpr h, toInt64?_toInt n⟩

theorem Denotes.number (h : Denotes cs n) : Number cs := by
  cases h with
  | signed hsign hdigits => exact .whole hsign hdigits

end Integers

end Text

open Text

namespace Kind

/-- Digits, and optionally a point and digits. -/
def isUnsigned (cs : List Char) : Bool :=
  match cs.dropWhile (· != '.') with
  | '.' :: fraction => isDigits (cs.takeWhile (· != '.')) && isDigits fraction
  | _ => isDigits cs

variable {cs sign digits fraction : List Char} {factor : Int}

theorem isDigits_iff : isDigits cs = true ↔ Digits cs := by
  simp [isDigits, Digits]

theorem ne_point_of_digits (h : Digits digits) : ∀ c ∈ digits, (c != '.') = true := by
  intro c hc
  have hdigit := h.2 c hc
  rw [bne_iff_ne]
  rintro rfl
  exact absurd hdigit (by decide)

theorem isUnsigned_iff : isUnsigned cs = true ↔
    Digits cs ∨ ∃ digits fraction, Digits digits ∧ Digits fraction ∧
      cs = digits ++ '.' :: fraction := by
  constructor
  · intro h
    unfold isUnsigned at h
    split at h
    · rename_i fraction hfraction
      rw [Bool.and_eq_true, isDigits_iff, isDigits_iff] at h
      refine .inr ⟨_, fraction, h.1, h.2, ?_⟩
      rw [← hfraction, List.takeWhile_append_dropWhile]
    · exact .inl (isDigits_iff.mp h)
  · rintro (h | ⟨digits, fraction, hdigits, hfraction, rfl⟩)
    · have hdrop : cs.dropWhile (· != '.') = [] :=
        List.dropWhile_eq_nil_iff.mpr (ne_point_of_digits h)
      rw [isUnsigned, hdrop]
      exact isDigits_iff.mpr h
    · have hpoint := ne_point_of_digits hdigits
      have htake : (digits ++ '.' :: fraction).takeWhile (· != '.') = digits := by
        rw [List.takeWhile_append_of_pos hpoint]
        simp
      have hdrop : (digits ++ '.' :: fraction).dropWhile (· != '.') = '.' :: fraction := by
        rw [List.dropWhile_append_of_pos hpoint]
        simp
      rw [isUnsigned, hdrop, htake, isDigits_iff.mpr hdigits]
      exact isDigits_iff.mpr hfraction

theorem isNumber_append (hsign : Sign sign factor) (h : ∀ c ∈ cs.head?, c.isDigit = true) :
    isNumber (sign ++ cs) = isUnsigned cs := by
  cases hsign with
  | none => 
    cases cs with
    | nil => rfl
    | cons c cs =>
      have hc := h c rfl
      rw [List.nil_append]
      unfold isNumber
      split
      · rename_i he
        cases he
        exact absurd hc (by decide)
      · rename_i he
        cases he
        exact absurd hc (by decide)
      · rfl
  | plus => rfl
  | minus => rfl

theorem exists_isUnsigned (cs : List Char) :
    ∃ sign factor unsigned, Sign sign factor ∧ cs = sign ++ unsigned ∧
      isNumber cs = isUnsigned unsigned := by
  unfold isNumber
  split
  · exact ⟨_, _, _, .plus, rfl, rfl⟩
  · exact ⟨_, _, _, .minus, rfl, rfl⟩
  · exact ⟨_, _, _, .none, rfl, rfl⟩

/-- What is seen as a number is a sign and digits, with or without a point and digits. -/
theorem isNumber_iff : isNumber cs = true ↔ Number cs := by
  constructor
  · intro h
    obtain ⟨sign, factor, unsigned, hsign, rfl, hunsigned⟩ := exists_isUnsigned cs
    rw [hunsigned, isUnsigned_iff] at h
    rcases h with h | ⟨digits, fraction, hdigits, hfraction, rfl⟩
    · exact .whole hsign h
    · exact .decimal hsign hdigits hfraction
  · intro h
    cases h with
    | whole hsign hdigits =>
      obtain ⟨c, ds, rfl, hc⟩ := hdigits.exists_cons
      rw [isNumber_append hsign (by simpa using hc)]
      exact isUnsigned_iff.mpr (.inl hdigits)
    | decimal hsign hdigits hfraction =>
      obtain ⟨c, ds, rfl, hc⟩ := hdigits.exists_cons
      rw [isNumber_append hsign (by simpa using hc)]
      exact isUnsigned_iff.mpr (.inr ⟨_, _, hdigits, hfraction, rfl⟩)

theorem infer_eq_number_iff {s : String} : infer s = number ↔ Number (trimList s.toList) := by
  unfold infer
  dsimp only
  split
  · rename_i hempty
    rw [List.isEmpty_iff.mp hempty, ← isNumber_iff]
    decide
  · split
    · rename_i h
      exact iff_of_true rfl (isNumber_iff.mp h)
    · rename_i h
      rw [← isNumber_iff]
      refine iff_of_false ?_ h
      split
      · nofun
      · split
        · nofun
        · split <;> nofun

end Kind

theorem Value.toInteger?_text_eq_some_iff {s : String} {n : Int64} :
    (Value.text s).toInteger? = some n ↔ Denotes (trimList s.toList) n.toInt := by
  rw [toInteger?, readInt64?_eq_some_iff, trim, String.toList_ofList]

/-- The kind of a text is number exactly if between its blanks stand an optional sign, digits and
optionally a point and digits. A text is read as an integer exactly if between its blanks stand an
optional sign and digits that denote it. So what is read as an integer is seen as a number, and
both are true of the decimal form of every integer. -/
theorem numbers_read :
    (∀ s, Kind.infer s = .number ↔ ∃ body, Trimmed s.toList body ∧ Number body) ∧
    (∀ s (n : Int64), (Value.text s).toInteger? = some n ↔
      ∃ body, Trimmed s.toList body ∧ Denotes body n.toInt) ∧
    (∀ s, (Value.text s).toInteger?.isSome = true → Kind.infer s = .number) ∧
    ∀ n : Int64, Kind.infer (Value.integer n).display = .number ∧
      (Value.text (Value.integer n).display).toInteger? = some n := by
  have hseen {s : String} {n : Int64} (h : (Value.text s).toInteger? = some n) :
      Kind.infer s = .number :=
    Kind.infer_eq_number_iff.mpr (Value.toInteger?_text_eq_some_iff.mp h).number
  refine ⟨?_, ?_, ?_, ?_⟩
  · intro s
    rw [exists_trimmed_iff, Kind.infer_eq_number_iff]
  · intro s n
    rw [exists_trimmed_iff (p := fun body => Denotes body n.toInt),
      Value.toInteger?_text_eq_some_iff]
  · intro s h
    obtain ⟨n, hn⟩ := Option.isSome_iff_exists.mp h
    exact hseen hn
  · intro n
    have hread := Value.toInteger?_writeInt64 n
    exact ⟨hseen hread, hread⟩

/-- An integer with a sign, zeros in front and blanks around it; a number with a point after an em
space is not read as one, and neither is the least integer beyond 64 bits. -/
theorem numbers_read_sample :
    (Value.text " +007\t").toInteger? = some 7 ∧ Kind.infer " +007\t" = .number ∧
      (Value.text "\u2003-3.50").toInteger? = none ∧ Kind.infer "\u2003-3.50" = .number ∧
      (Value.text "9223372036854775808").toInteger? = none := by
  obtain ⟨hnumber, -, hseen, -⟩ := numbers_read
  have hread : (Value.text " +007\t").toInteger? = some 7 := by decide
  have hdecimal : Number (['-'] ++ (['3'] ++ '.' :: ['5', '0'])) :=
    .decimal .minus (Kind.isDigits_iff.mp rfl) (Kind.isDigits_iff.mp rfl)
  have htrimmed : Trimmed "\u2003-3.50".toList ['-', '3', '.', '5', '0'] := trimmed_trimList _
  exact ⟨hread, hseen _ (by rw [hread]; rfl), by decide, (hnumber _).mpr ⟨_, htrimmed, hdecimal⟩,
    by decide⟩

end TableSearch
