import Mathlib.Data.List.TakeWhile
import TableSearch.Text.Integer

/-!
# Digits of numbers

The decimal digits of a number are as many as its size asks for, so that only zero begins with a
zero, and a reader of digits takes exactly those in front of a character that is none.
-/
namespace TableSearch.Text

theorem ofDigitChars_lt {cs : List Char} (h : cs.all Char.isDigit) (n : Nat) :
    Nat.ofDigitChars 10 cs n < Nat.pow 10 cs.length * (n + 1) := by
  induction cs generalizing n with
  | nil => simp
  | cons c cs ih =>
    rw [List.all_cons, Bool.and_eq_true] at h
    have hc : 48 ≤ c.toNat ∧ c.toNat ≤ 57 := Char.isDigit_iff_toNat.mp h.1
    rw [Nat.ofDigitChars_cons]
    refine (ih h.2 _).trans_le ?_
    change _ ≤ Nat.pow 10 cs.length * 10 * (n + 1)
    rw [Nat.mul_assoc]
    apply Nat.mul_le_mul_left
    change 10 * n + (c.toNat - 48) + 1 ≤ _
    omega

theorem toDigits_head (n : Nat) :
    ((Nat.toDigits 10 n).head? == some '0' && decide ((Nat.toDigits 10 n).length > 1)) = false := by
  cases h : Nat.toDigits 10 n with
  | nil => rfl
  | cons c cs =>
    by_cases hc : c = '0'
    · subst hc
      have hdigits := all_isDigit_toDigits n
      have hvalue := Nat.ofDigitChars_ten_toDigits (n := n)
      rw [h, List.all_cons, Bool.and_eq_true] at hdigits
      rw [h, Nat.ofDigitChars_cons] at hvalue
      have hlt := ofDigitChars_lt hdigits.2 0
      change Nat.ofDigitChars 10 cs 0 = n at hvalue
      rw [hvalue, Nat.zero_add, Nat.mul_one] at hlt
      cases cs with
      | nil => rfl
      | cons d cs =>
        have hle := (Nat.length_toDigits_le_iff (by decide) (Nat.succ_pos cs.length)).mpr hlt
        rw [h, List.length_cons, List.length_cons] at hle
        omega
    · simp [hc]

theorem exists_toDigits (n : Nat) :
    ∃ c cs, Nat.toDigits 10 n = c :: cs ∧ c.isDigit := by
  obtain ⟨c, cs, h⟩ := List.exists_cons_of_ne_nil (Nat.toDigits_ne_nil (b := 10) (n := n))
  have hdigits := all_isDigit_toDigits n
  rw [h, List.all_cons, Bool.and_eq_true] at hdigits
  exact ⟨c, cs, h, hdigits.1⟩

theorem takeWhile_toDigits (n : Nat) {rest : List Char}
    (h : ∀ c ∈ rest.head?, c.isDigit = false) :
    (Nat.toDigits 10 n ++ rest).takeWhile Char.isDigit = Nat.toDigits 10 n := by
  rw [List.takeWhile_append_of_pos (List.all_eq_true.mp (all_isDigit_toDigits n))]
  cases rest with
  | nil => simp
  | cons c rest =>
    have hc := h c rfl
    simp [hc]

theorem dropWhile_toDigits (n : Nat) {rest : List Char}
    (h : ∀ c ∈ rest.head?, c.isDigit = false) :
    (Nat.toDigits 10 n ++ rest).dropWhile Char.isDigit = rest := by
  rw [List.dropWhile_append_of_pos (List.all_eq_true.mp (all_isDigit_toDigits n))]
  cases rest with
  | nil => rfl
  | cons c rest =>
    have hc := h c rfl
    simp [hc]

theorem isEmpty_toDigits (n : Nat) : (Nat.toDigits 10 n).isEmpty = false := by
  simp [Nat.toDigits_ne_nil]

end TableSearch.Text
