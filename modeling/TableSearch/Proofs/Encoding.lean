import TableSearch.Sql.Cell

/-!
# Texts as bytes

The bytes of a text are decoded to its characters, and the order of the bytes of two texts is that
of the texts: the first character in which they differ decides, and it differs in its bytes as it
does in its number.
-/
namespace TableSearch

namespace Text.Utf8

theorem loop_eq (bytes : ByteArray) (i : Nat) (listed : List UInt8) :
    ByteArray.toList.loop bytes i listed = listed.reverse ++ bytes.data.toList.drop i := by
  fun_induction ByteArray.toList.loop bytes i listed with
  | case1 i listed hi ih =>
    have hdrop : bytes.data.toList.drop i = bytes.get! i :: bytes.data.toList.drop (i + 1) := by
      rw [List.drop_eq_getElem_cons (by simpa using hi)]
      simp [ByteArray.get!, hi]
    simp [ih, hdrop]
  | case2 i listed hi =>
    have hdrop : bytes.data.toList.drop i = [] := by simpa using hi
    simp [hdrop]

theorem encode_eq (s : String) : encode s = s.toList.flatMap String.utf8EncodeChar := by
  unfold encode String.toUTF8 ByteArray.toList
  rw [loop_eq, ← String.utf8Encode_toList, List.utf8Encode, List.data_toByteArray]
  rfl

theorem tail_zero (lo hi acc : Nat) (l : List UInt8) :
    tail 0 lo hi acc l = (some (Char.ofNat acc), l) := by
  cases l <;> rfl

theorem tail_succ {n lo hi acc k : Nat} {b : UInt8} (hb : b.toNat = 0x80 + k)
    (hk : lo ≤ 0x80 + k ∧ 0x80 + k ≤ hi) (l : List UInt8) :
    tail (n + 1) lo hi acc (b :: l) = tail n 0x80 0xBF (acc * 64 + k) l := by
  simp [tail, hb, hk]

theorem decodeWith_lead {n owed lo hi : Nat} {b : UInt8} {c : Char} {l rest : List UInt8}
    (hb : 0x80 ≤ b.toNat) (hlead : following? b.toNat = some (owed, lo, hi))
    (htail : tail owed lo hi (leadBits owed b.toNat) l = (some c, rest)) :
    decodeWith (n + 1) (b :: l) = some c :: decodeWith n rest := by
  rw [decodeWith, if_neg (by omega), hlead]
  simp only [htail]

theorem following?_one {n : Nat} (h : 2 ≤ n ∧ n < 32) :
    following? (0xC0 + n) = some (1, 0x80, 0xBF) := by
  simp [following?]
  omega

theorem following?_two {n k : Nat} (hn : n < 16) (hk : k < 64) (hlong : 32 ≤ n * 64 + k)
    (hvalid : n * 64 + k < 0x360 ∨ 0x37F < n * 64 + k) :
    ∃ lo hi, following? (0xE0 + n) = some (2, lo, hi) ∧ lo ≤ 0x80 + k ∧ 0x80 + k ≤ hi := by
  unfold following?
  simp only [Bool.and_eq_true, decide_eq_true_eq, beq_iff_eq]
  repeat' split
  all_goals first
    | exact ⟨_, _, rfl, by omega, by omega⟩
    | omega

theorem following?_three {n k : Nat} (hk : k < 64) (hlong : 16 ≤ n * 64 + k)
    (hvalid : n * 64 + k < 0x110) :
    ∃ lo hi, following? (0xF0 + n) = some (3, lo, hi) ∧ lo ≤ 0x80 + k ∧ 0x80 + k ≤ hi := by
  unfold following?
  simp only [Bool.and_eq_true, decide_eq_true_eq, beq_iff_eq]
  repeat' split
  all_goals first
    | exact ⟨_, _, rfl, by omega, by omega⟩
    | omega

theorem decodeWith_encodeChar (n : Nat) (c : Char) (l : List UInt8) :
    decodeWith (n + 1) (String.utf8EncodeChar c ++ l) = some c :: decodeWith n l := by
  have hc : Char.ofNat c.val.toNat = c := Char.ofNat_toNat c
  have hvalid : c.val.toNat < 0xD800 ∨ 0xDFFF < c.val.toNat ∧ c.val.toNat < 0x110000 := c.valid
  have hbyte {m : Nat} (h : m < 256) : (UInt8.ofNat m).toNat = m := UInt8.toNat_ofNat_of_lt' h
  unfold String.utf8EncodeChar
  dsimp only
  generalize c.val.toNat = v at hc hvalid
  split
  · have h0 := hbyte (m := v) (by omega)
    simp only [List.cons_append, List.nil_append]
    rw [decodeWith, if_pos (by omega), h0, hc]
  split
  · have h0 := hbyte (m := v / 64 % 0x20 + 0xC0) (by omega)
    have h1 := hbyte (m := v % 0x40 + 0x80) (by omega)
    have hlead : v / 64 % 0x20 + 0xC0 = 0xC0 + v / 64 := by omega
    have hbits : leadBits 1 (0xC0 + v / 64) = v / 64 := by simp [leadBits]
    simp only [List.cons_append, List.nil_append]
    refine decodeWith_lead (by omega) (h0 ▸ hlead ▸ following?_one (by omega)) ?_
    rw [h0, hlead, hbits, tail_succ (k := v % 64) (by omega) (by omega), tail_zero,
      Nat.div_add_mod', hc]
  split
  · have h0 := hbyte (m := v / 4096 % 0x10 + 0xE0) (by omega)
    have h1 := hbyte (m := v / 64 % 0x40 + 0x80) (by omega)
    have h2 := hbyte (m := v % 0x40 + 0x80) (by omega)
    have hlead : v / 4096 % 0x10 + 0xE0 = 0xE0 + v / 4096 := by omega
    have hbits : leadBits 2 (0xE0 + v / 4096) = v / 4096 := by simp [leadBits]
    obtain ⟨lo, hi, hfollowing, hrange⟩ := following?_two (n := v / 4096) (k := v / 64 % 64)
      (by omega) (by omega) (by omega) (by omega)
    have hv : (v / 4096 * 64 + v / 64 % 64) * 64 + v % 64 = v := by omega
    simp only [List.cons_append, List.nil_append]
    refine decodeWith_lead (by omega) (h0 ▸ hlead ▸ hfollowing) ?_
    rw [h0, hlead, hbits, tail_succ (k := v / 64 % 64) (by omega) hrange,
      tail_succ (k := v % 64) (by omega) (by omega), tail_zero, hv, hc]
  · have h0 := hbyte (m := v / 262144 % 0x08 + 0xF0) (by omega)
    have h1 := hbyte (m := v / 4096 % 0x40 + 0x80) (by omega)
    have h2 := hbyte (m := v / 64 % 0x40 + 0x80) (by omega)
    have h3 := hbyte (m := v % 0x40 + 0x80) (by omega)
    have hlead : v / 262144 % 0x08 + 0xF0 = 0xF0 + v / 262144 := by omega
    have hbits : leadBits 3 (0xF0 + v / 262144) = v / 262144 := by simp [leadBits]
    obtain ⟨lo, hi, hfollowing, hrange⟩ := following?_three (n := v / 262144)
      (k := v / 4096 % 64) (by omega) (by omega) (by omega)
    have hv : ((v / 262144 * 64 + v / 4096 % 64) * 64 + v / 64 % 64) * 64 + v % 64 = v := by omega
    simp only [List.cons_append, List.nil_append]
    refine decodeWith_lead (by omega) (h0 ▸ hlead ▸ hfollowing) ?_
    rw [h0, hlead, hbits, tail_succ (k := v / 4096 % 64) (by omega) hrange,
      tail_succ (k := v / 64 % 64) (by omega) (by omega),
      tail_succ (k := v % 64) (by omega) (by omega), tail_zero, hv, hc]

theorem decodeWith_flatMap {n : Nat} {cs : List Char} (h : cs.length ≤ n) :
    decodeWith n (cs.flatMap String.utf8EncodeChar) = cs.map some := by
  induction cs generalizing n with
  | nil => cases n <;> rfl
  | cons c cs ih =>
    cases n with
    | zero => simp at h
    | succ n =>
      rw [List.flatMap_cons, decodeWith_encodeChar, ih (Nat.le_of_succ_le_succ h)]
      rfl

theorem length_le_flatMap (cs : List Char) :
    cs.length ≤ (cs.flatMap String.utf8EncodeChar).length := by
  induction cs with
  | nil => simp
  | cons c cs ih =>
    have hc : 0 < (String.utf8EncodeChar c).length :=
      List.length_pos_iff.mpr String.utf8EncodeChar_ne_nil
    rw [List.flatMap_cons, List.length_append, List.length_cons]
    omega

/-- Decoding undoes encoding. -/
theorem decode_encode (s : String) : decode (encode s) = s.toList := by
  rw [encode_eq, decode, decodeWith_flatMap (length_le_flatMap _), List.map_map]
  exact List.map_id _

end Text.Utf8

namespace Sql.Cell

@[simp] theorem orderBytes_self (l : List UInt8) : orderBytes l l = .eq := by
  induction l with
  | nil => rfl
  | cons a l ih => simp [orderBytes, ih]

theorem orderBytes_swap (l m : List UInt8) : (orderBytes l m).swap = orderBytes m l := by
  fun_induction orderBytes l m with
  | case1 => rfl
  | case2 m hm =>
    cases m with
    | nil => exact absurd rfl hm
    | cons b m => rfl
  | case3 l hl =>
    cases l with
    | nil => exact absurd rfl hl
    | cons a l => rfl
  | case4 a l b m ih =>
    rw [orderBytes, Ordering.swap_then, ih, ← Std.OrientedCmp.eq_swap]

theorem orderBytes_append (l m n : List UInt8) : orderBytes (l ++ m) (l ++ n) = orderBytes m n := by
  induction l with
  | nil => rfl
  | cons a l ih => simp [orderBytes, ih]

theorem orderBytes_cons_eq_lt_iff {a b : UInt8} {l m : List UInt8} :
    orderBytes (a :: l) (b :: m) = .lt ↔
      a.toNat < b.toNat ∨ a.toNat = b.toNat ∧ orderBytes l m = .lt := by
  rw [orderBytes, Ordering.then_eq_lt, Std.compare_eq_lt, Std.compare_eq_iff_eq,
    UInt8.lt_iff_toNat_lt, UInt8.toNat_inj]

theorem orderBytes_encodeChar {c d : Char} (h : c < d) (l m : List UInt8) :
    orderBytes (String.utf8EncodeChar c ++ l) (String.utf8EncodeChar d ++ m) = .lt := by
  have hcd : c.val.toNat < d.val.toNat := h
  have hd : d.val.toNat < 0x110000 := by
    rcases d.valid with hd | hd
    · exact Nat.lt_trans hd (by decide)
    · exact hd.2
  unfold String.utf8EncodeChar
  dsimp only
  repeat' split
  all_goals
    simp (disch := omega) only [List.cons_append, orderBytes_cons_eq_lt_iff, UInt8.toNat_ofNat',
      Nat.mod_eq_of_lt]
    omega

theorem orderBytes_of_lt {cs ds : List Char} (h : cs < ds) :
    orderBytes (cs.flatMap String.utf8EncodeChar) (ds.flatMap String.utf8EncodeChar) = .lt := by
  induction h with
  | nil =>
    rename_i d ds
    obtain ⟨b, bs, hd⟩ := List.exists_cons_of_ne_nil (String.utf8EncodeChar_ne_nil (c := d))
    rw [List.flatMap_cons, hd]
    rfl
  | rel hlt => exact orderBytes_encodeChar hlt _ _
  | cons _ ih => rwa [List.flatMap_cons, List.flatMap_cons, orderBytes_append]

/-- Texts are ordered as their bytes are. -/
theorem orderBytes_encode (s t : String) :
    orderBytes (Text.Utf8.encode s) (Text.Utf8.encode t) = compare s t := by
  have hlt {s t : String} (h : s < t) :
      orderBytes (Text.Utf8.encode s) (Text.Utf8.encode t) = .lt := by
    rw [Text.Utf8.encode_eq, Text.Utf8.encode_eq]
    exact orderBytes_of_lt h
  cases hst : compare s t with
  | lt => exact hlt (compareOfLessAndEq_eq_lt.mp hst)
  | eq => rw [Std.compare_eq_iff_eq.mp hst, orderBytes_self]
  | gt =>
    have hts : compare t s = .lt := Std.OrientedCmp.lt_of_gt hst
    rw [← orderBytes_swap, hlt (compareOfLessAndEq_eq_lt.mp hts)]
    rfl

end Sql.Cell

end TableSearch
