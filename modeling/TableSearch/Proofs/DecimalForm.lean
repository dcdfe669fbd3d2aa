import TableSearch.Proofs.Digits
import TableSearch.Value

/-!
# The decimal form of an integer

A reader of integers takes more texts than a writer puts down: a plus sign, zeros in front, minus
zero, and for values blanks around the number. Main statement: of the texts that read as an integer,
the decimal form is the one without these (`writeInt64_eq_iff`, `Value.eq_writeInt64_iff`).
-/
namespace TableSearch

namespace Text

def isNumeral : List Char → Bool
  | [] => false
  | ['0'] => true
  | c :: cs => c != '0' && (c :: cs).all Char.isDigit

/-- A numeral, or a minus sign and a numeral other than zero. -/
def isDecimal : List Char → Bool
  | '-' :: cs => isNumeral cs && cs != ['0']
  | cs => isNumeral cs

section Numerals

variable {cs : List Char} {n : Nat}

theorem digitChar_of_isDigit {c : Char} (h : c.isDigit) :
    c.toNat - '0'.toNat < 10 ∧ (c.toNat - '0'.toNat).digitChar = c := by
  have hc : 48 ≤ c.toNat ∧ c.toNat ≤ 57 := Char.isDigit_iff_toNat.mp h
  have hlt : c.toNat - 48 < 10 := by omega
  refine ⟨hlt, Char.toNat_inj.mp ?_⟩
  change (c.toNat - 48).digitChar.toNat = c.toNat
  rw [Nat.toNat_digitChar_of_lt_ten hlt]
  omega

theorem toDigits_ofDigitChars (hn : 0 < n) (h : cs.all Char.isDigit) :
    Nat.toDigits 10 (Nat.ofDigitChars 10 cs n) = Nat.toDigits 10 n ++ cs := by
  induction cs generalizing n with
  | nil => simp
  | cons c cs ih =>
    rw [List.all_cons, Bool.and_eq_true] at h
    obtain ⟨hlt, hc⟩ := digitChar_of_isDigit h.1
    rw [Nat.ofDigitChars_cons, ih (by omega) h.2,
      ← Nat.toDigits_append_toDigits (by decide) hn hlt, Nat.toDigits_of_lt_base hlt, hc,
      List.append_assoc]
    rfl

theorem isNumeral_toDigits (n : Nat) : isNumeral (Nat.toDigits 10 n) := by
  have hdigits := all_isDigit_toDigits n
  have hhead := toDigits_head n
  cases h : Nat.toDigits 10 n with
  | nil => exact absurd h Nat.toDigits_ne_nil
  | cons c cs =>
    rw [h] at hdigits hhead
    unfold isNumeral
    split <;> simp_all

theorem toDigits_of_isNumeral (h : isNumeral cs) (hn : readNat? cs = some n) :
    Nat.toDigits 10 n = cs := by
  unfold readNat? at hn
  split at hn
  · rename_i hdigits
    rw [← Option.some.inj hn]
    unfold isNumeral at h
    split at h
    · cases h
    · rfl
    · rename_i c cs _
      rw [Bool.and_eq_true, bne_iff_ne, List.all_cons, Bool.and_eq_true] at h
      obtain ⟨hzero, hdigit, hdigits⟩ := h
      obtain ⟨hlt, hc⟩ := digitChar_of_isDigit hdigit
      have hpos : 0 < c.toNat - '0'.toNat := by
        rw [Nat.pos_iff_ne_zero]
        intro he
        rw [he] at hc
        exact hzero hc.symm
      rw [Nat.ofDigitChars_cons, Nat.mul_zero, Nat.zero_add, toDigits_ofDigitChars hpos hdigits,
        Nat.toDigits_of_lt_base hlt, hc]
      rfl
  · cases hn

end Numerals

section Integers

variable {cs : List Char} {s : String}

theorem isDecimal_of_isDigit {c : Char} (h : c.isDigit) (cs : List Char) :
    isDecimal (c :: cs) = isNumeral (c :: cs) := by
  unfold isDecimal
  split
  · rename_i he
    cases he
    exact absurd h (by decide)
  · rfl

theorem isDecimal_integerChars (n : Int) : isDecimal (integerChars n) := by
  cases n with
  | ofNat n =>
    obtain ⟨c, cs, h, hdigit⟩ := exists_toDigits n
    have hnumeral := isNumeral_toDigits n
    rw [integerChars]
    rw [h] at hnumeral ⊢
    rw [isDecimal_of_isDigit hdigit, hnumeral]
  | negSucc n =>
    have hzero : Nat.toDigits 10 (n + 1) ≠ ['0'] := by
      intro he
      have hvalue := Nat.ofDigitChars_ten_toDigits (n := n + 1)
      rw [he] at hvalue
      exact absurd hvalue (by change 0 ≠ n + 1; omega)
    simp [integerChars, isDecimal, isNumeral_toDigits, hzero]

/-- Of the texts that denote an integer one is its decimal form. -/
theorem integerChars_eq_iff {n : Int} (h : readInteger? cs = some n) :
    integerChars n = cs ↔ isDecimal cs := by
  constructor
  · rintro rfl
    exact isDecimal_integerChars n
  · intro hdecimal
    unfold readInteger? at h
    split at h
    · rename_i cs
      obtain ⟨_, hread, rfl⟩ := Option.map_eq_some_iff.mp h
      obtain ⟨k, hk, hcast⟩ := Option.bind_eq_some_iff.mp hread
      cases hcast
      simp only [isDecimal, Bool.and_eq_true, bne_iff_ne] at hdecimal
      have hdigits := toDigits_of_isNumeral hdecimal.1 hk
      cases k with
      | zero => exact absurd hdigits.symm hdecimal.2
      | succ k => exact congrArg ('-' :: ·) hdigits
    · cases hdecimal
    · rename_i hminus _
      obtain ⟨k, hk, rfl⟩ := Option.map_eq_some_iff.mp h
      refine toDigits_of_isNumeral ?_ hk
      unfold isDecimal at hdecimal
      split at hdecimal
      · exact absurd rfl (hminus _)
      · exact hdecimal

theorem toInt64?_eq_some_iff {k : Int} {n : Int64} : toInt64? k = some n ↔ n.toInt = k := by
  constructor
  · intro h
    unfold toInt64? at h
    split at h
    · rename_i hfits
      simp only [fitsInt64, Bool.and_eq_true, decide_eq_true_eq] at hfits
      rw [← Option.some.inj h]
      exact Int64.toInt_ofInt_of_le hfits.1 hfits.2
    · cases h
  · rintro rfl
    exact toInt64?_toInt n

theorem writeInt64_inj {m n : Int64} : writeInt64 m = writeInt64 n ↔ m = n := by
  constructor
  · intro h
    have hread := readInt64?_writeInt64 m
    rw [h, readInt64?_writeInt64] at hread
    exact (Option.some.inj hread).symm
  · exact congrArg writeInt64

theorem writeInt64_eq_iff {n : Int64} (h : readInt64? s = some n) :
    writeInt64 n = s ↔ isDecimal s.toList := by
  obtain ⟨k, hk, hn⟩ := Option.bind_eq_some_iff.mp h
  have hvalue : n.toInt = k := toInt64?_eq_some_iff.mp hn
  rw [← integerChars_eq_iff hk, ← hvalue, writeInt64, writeInteger, ← String.toList_inj,
    String.toList_ofList]

example : ["0", "-7", "05", "+5", "-0", "5 "].map (fun s => isDecimal s.toList) =
    [true, true, false, false, false, false] := by decide

end Integers

section Blanks

theorem isBlank_of_isDigit {c : Char} (h : c.isDigit) : isBlank c = false := by
  have hc : 48 ≤ c.toNat ∧ c.toNat ≤ 57 := Char.isDigit_iff_toNat.mp h
  simp only [isBlank, Bool.or_eq_false_iff, Bool.and_eq_false_iff, decide_eq_false_iff_not,
    beq_eq_false_iff_ne]
  omega

theorem isBlank_of_mem_integerChars {n : Int} {c : Char} (h : c ∈ integerChars n) :
    isBlank c = false := by
  have hdigit {k : Nat} (hc : c ∈ Nat.toDigits 10 k) : isBlank c = false :=
    isBlank_of_isDigit (List.all_eq_true.mp (all_isDigit_toDigits k) c hc)
  cases n with
  | ofNat k => exact hdigit h
  | negSucc k =>
    rcases List.mem_cons.mp h with rfl | h
    · rfl
    · exact hdigit h

theorem dropWhile_of_head {cs : List Char} (h : ∀ c ∈ cs.head?, isBlank c = false) :
    cs.dropWhile isBlank = cs := by
  cases cs with
  | nil => rfl
  | cons c cs =>
    have hc := h c rfl
    simp [hc]

theorem trimList_of_ends {cs : List Char} (hhead : ∀ c ∈ cs.head?, isBlank c = false)
    (hlast : ∀ c ∈ cs.getLast?, isBlank c = false) : trimList cs = cs := by
  rw [trimList, dropWhile_of_head hhead, dropWhile_of_head (by rwa [List.head?_reverse]),
    List.reverse_reverse]

theorem trimList_of_forall {cs : List Char} (h : ∀ c ∈ cs, isBlank c = false) :
    trimList cs = cs :=
  trimList_of_ends (fun c hc => h c (List.mem_of_mem_head? hc))
    (fun c hc => h c (List.mem_of_getLast? hc))

theorem isBlank_of_isDecimal {cs : List Char} (h : isDecimal cs) : ∀ c ∈ cs, isBlank c = false := by
  have hnumeral {l : List Char} (hl : isNumeral l) : ∀ c ∈ l, isBlank c = false := by
    unfold isNumeral at hl
    split at hl
    · cases hl
    · simp [isBlank]
    · rw [Bool.and_eq_true, List.all_eq_true] at hl
      exact fun c hc => isBlank_of_isDigit (hl.2 c hc)
  unfold isDecimal at h
  split at h
  · rw [Bool.and_eq_true] at h
    exact List.forall_mem_cons.mpr ⟨rfl, hnumeral h.1⟩
  · exact hnumeral h

theorem trim_writeInt64 (n : Int64) : trim (writeInt64 n) = writeInt64 n := by
  rw [trim, writeInt64, writeInteger, String.toList_ofList,
    trimList_of_forall fun _ => isBlank_of_mem_integerChars]

end Blanks

end Text

namespace Value

@[simp] theorem toInteger?_writeInt64 (n : Int64) :
    (text (Text.writeInt64 n)).toInteger? = some n := by
  rw [toInteger?, Text.trim_writeInt64, Text.readInt64?_writeInt64]

/-- A text that reads as a number, with or without blanks around it, is the decimal form of the
number exactly if it has the shape of one. -/
theorem eq_writeInt64_iff {s : String} {n : Int64} (h : (text s).toInteger? = some n) :
    s = Text.writeInt64 n ↔ Text.isDecimal s.toList := by
  constructor
  · rintro rfl
    exact (Text.writeInt64_eq_iff (Text.readInt64?_writeInt64 n)).mp rfl
  · intro hdecimal
    have htrim : Text.trim s = s := by
      rw [Text.trim, Text.trimList_of_forall (Text.isBlank_of_isDecimal hdecimal),
        String.ofList_toList]
    rw [toInteger?, htrim] at h
    exact ((Text.writeInt64_eq_iff h).mpr hdecimal).symm

end Value

end TableSearch
