import TableSearch.Proofs.DecimalForm

/-!
# The order of values

Two integers stand in the order of numbers, two texts in the order of texts, and two other values
in an order that is turned around when they are. An integer and a text that reads as one compare as
numbers, so three values may be compared in both ways. Main statement: the order is transitive
exactly where the two ways do not contradict each other (`order_transitiveOn_iff`). Equality is that
of what is displayed (`looseEq_iff`), so it is finer than to have the same place in the order.
-/
namespace TableSearch.Value

@[simp] theorem order_integer (m n : Int64) :
    (integer m).order (integer n) = some (compare m n) := rfl

@[simp] theorem order_text (s t : String) : (text s).order (text t) = some (compare s t) := by
  unfold order
  simp only [isNull, isInteger, Bool.or_self, Bool.false_eq_true, if_false]
  split <;> rfl

theorem order_swap (a b : Value) : b.order a = (a.order b).map Ordering.swap := by
  unfold order
  rw [Bool.or_comm b.isNull]
  split
  · rfl
  · rw [Bool.or_comm b.isInteger]
    have hdisplay : compare b.display a.display = (compare a.display b.display).swap :=
      Std.OrientedOrd.eq_swap
    cases a.toInteger? with
    | none => cases b.toInteger? <;> exact congrArg some hdisplay
    | some m =>
      cases b.toInteger? with
      | none => exact congrArg some hdisplay
      | some n =>
        dsimp only
        split
        · exact congrArg some Std.OrientedOrd.eq_swap
        · exact congrArg some hdisplay

theorem text_ne_null (s : String) : text s ≠ null := fun h => nomatch h

theorem integer_ne_null (n : Int64) : integer n ≠ null := fun h => nomatch h

theorem looseEq_iff {a b : Value} (ha : a ≠ null) (hb : b ≠ null) :
    a.looseEq b ↔ a.display = b.display := by
  cases a with
  | null => exact absurd rfl ha
  | integer m =>
    cases b with
    | null => exact absurd rfl hb
    | integer n => simp only [looseEq, display, beq_iff_eq, Text.writeInt64_inj]
    | text s => exact beq_iff_eq
  | text s =>
    cases b with
    | null => exact absurd rfl hb
    | integer n => exact beq_iff_eq
    | text t => exact beq_iff_eq

/-- Two values that compare as the numbers they read as: one of them is an integer. -/
structure ComparesAs (a b : Value) (m n : Int64) : Prop where
  left : a.toInteger? = some m
  right : b.toInteger? = some n
  integer : a.isInteger = true ∨ b.isInteger = true

def AsNumbers (a b : Value) : Prop := ∃ m n, ComparesAs a b m n

/-- A value is less than another one or counts as equal to it. -/
def AtMost (a b : Value) : Prop := ∃ o, a.order b = some o ∧ o ≠ .gt

def TransitiveOn (p : Value → Prop) : Prop :=
  ∀ a b c, p a → p b → p c → a.AtMost b → b.AtMost c → a.AtMost c

/-- Three values that follow each other in a circle. -/
def Circle (a b c : Value) : Prop := a.AtMost b ∧ b.AtMost c ∧ c.AtMost a

/-- Where the order of numbers and the order of texts do not contradict each other. -/
structure Coherent (p : Value → Prop) : Prop where
  /-- No integer lies between the numbers that two texts read as, if the texts stand the other way
  round. -/
  number_between {i m n : Int64} {s t : String} (hi : p (.integer i)) (hs : p (.text s))
    (ht : p (.text t)) (hm : (text s).toInteger? = some m) (hn : (text t).toInteger? = some n)
    (hni : n ≤ i) (him : i ≤ m) : compare s t ≠ .lt
  /-- No text that reads as no number lies between the texts of two values that compare as numbers,
  if the numbers stand the other way round. -/
  text_between {a b : Value} {m n : Int64} {t : String} (ha : p a) (hb : p b) (ht : p (.text t))
    (hnumber : (text t).toInteger? = none) (hab : ComparesAs a b m n) (hmn : m ≤ n)
    (hbt : compare b.display t = .lt) : compare t a.display ≠ .lt

section Kinds

variable {a b c : Value} {m n : Int64}

theorem ComparesAs.symm (h : ComparesAs a b m n) : ComparesAs b a n m :=
  ⟨h.right, h.left, h.integer.symm⟩

theorem AsNumbers.symm (h : AsNumbers a b) : AsNumbers b a := by
  obtain ⟨m, n, h⟩ := h
  exact ⟨n, m, h.symm⟩

theorem isNull_eq_false (h : a ≠ null) : a.isNull = false := by
  cases a with
  | null => exact absurd rfl h
  | integer n => rfl
  | text s => rfl

theorem order_of_comparesAs (h : ComparesAs a b m n) : a.order b = some (compare m n) := by
  have ha : a.isNull = false := isNull_eq_false fun he => by simpa [he, toInteger?] using h.left
  have hb : b.isNull = false := isNull_eq_false fun he => by simpa [he, toInteger?] using h.right
  simp [order, ha, hb, h.left, h.right, h.integer]

theorem order_of_not_comparesAs (ha : a ≠ null) (hb : b ≠ null)
    (h : ¬AsNumbers a b) : a.order b = some (compare a.display b.display) := by
  unfold order
  rw [isNull_eq_false ha, isNull_eq_false hb, Bool.or_self, if_neg Bool.false_ne_true]
  split
  · rename_i m n hm hn
    rw [if_neg fun hi => h ⟨m, n, hm, hn, Bool.or_eq_true_iff.mp hi⟩]
  · rfl

theorem order_total (ha : a ≠ null) (hb : b ≠ null) :
    ∃ o, a.order b = some o ∧ b.order a = some o.swap := by
  obtain ⟨o, ho⟩ : ∃ o, a.order b = some o := by
    by_cases h : AsNumbers a b
    · obtain ⟨m, n, h⟩ := h
      exact ⟨_, order_of_comparesAs h⟩
    · exact ⟨_, order_of_not_comparesAs ha hb h⟩
  exact ⟨o, ho, by rw [order_swap, ho]; rfl⟩

theorem atMost_of_comparesAs (h : ComparesAs a b m n) : a.AtMost b ↔ m ≤ n := by
  unfold AtMost
  rw [order_of_comparesAs h, ← Std.isLE_compare, Ordering.isLE_iff_ne_gt]
  simp

theorem atMost_of_not_comparesAs (ha : a ≠ null) (hb : b ≠ null)
    (h : ¬AsNumbers a b) : a.AtMost b ↔ compare a.display b.display ≠ .gt := by
  unfold AtMost
  rw [order_of_not_comparesAs ha hb h]
  simp

theorem atMost_total (ha : a ≠ null) (hb : b ≠ null) : a.AtMost b ∨ b.AtMost a := by
  obtain ⟨o, hab, hba⟩ := order_total ha hb
  cases o with
  | lt => exact .inl ⟨.lt, hab, by decide⟩
  | eq => exact .inl ⟨.eq, hab, by decide⟩
  | gt => exact .inr ⟨.lt, hba, by decide⟩

theorem Circle.rotate (h : Circle a b c) : Circle b c a := ⟨h.2.1, h.2.2, h.1⟩

theorem atMost_trans_of_asNumbers (hab : AsNumbers a b) (hbc : AsNumbers b c)
    (hac : AsNumbers a c) (h : a.AtMost b) (h' : b.AtMost c) : a.AtMost c := by
  obtain ⟨l, m, hlm⟩ := hab
  obtain ⟨m', n, hmn⟩ := hbc
  obtain ⟨l', n', hln⟩ := hac
  obtain rfl := Option.some.inj (hlm.right.symm.trans hmn.left)
  obtain rfl := Option.some.inj (hlm.left.symm.trans hln.left)
  obtain rfl := Option.some.inj (hmn.right.symm.trans hln.right)
  rw [atMost_of_comparesAs hlm] at h
  rw [atMost_of_comparesAs hmn] at h'
  rw [atMost_of_comparesAs hln]
  exact Std.le_trans h h'

theorem atMost_trans_of_not_asNumbers (ha : a ≠ null) (hb : b ≠ null) (hc : c ≠ null)
    (hab : ¬AsNumbers a b) (hbc : ¬AsNumbers b c) (hac : ¬AsNumbers a c) (h : a.AtMost b)
    (h' : b.AtMost c) : a.AtMost c := by
  rw [atMost_of_not_comparesAs ha hb hab] at h
  rw [atMost_of_not_comparesAs hb hc hbc] at h'
  rw [atMost_of_not_comparesAs ha hc hac]
  exact Ordering.isLE_iff_ne_gt.mp
    (Std.TransCmp.isLE_trans (Ordering.isLE_iff_ne_gt.mpr h) (Ordering.isLE_iff_ne_gt.mpr h'))

theorem toInteger?_display (ha : a ≠ null) : (text a.display).toInteger? = a.toInteger? := by
  cases a with
  | null => exact absurd rfl ha
  | integer n => exact toInteger?_writeInt64 n
  | text s => rfl

theorem toInteger?_eq_none (hab : ComparesAs a b m n) (hac : ¬AsNumbers a c)
    (hbc : ¬AsNumbers b c) : c.toInteger? = none := by
  cases hc : c.toInteger? with
  | none => rfl
  | some k =>
    rcases hab.integer with hi | hi
    · exact absurd ⟨m, k, hab.left, hc, .inl hi⟩ hac
    · exact absurd ⟨n, k, hab.right, hc, .inl hi⟩ hbc

/-- Where a value compares as a number with two others, which compare as texts, it is an integer
and the others are texts. -/
theorem exists_integer_between {i : Int64} (hab : ComparesAs a b m i) (hbc : ComparesAs b c i n)
    (hac : ¬AsNumbers a c) : b = integer i ∧ (∃ s, a = text s) ∧ ∃ t, c = text t := by
  have htext {v : Value} {k : Int64} (hv : v.toInteger? = some k) (hi : v.isInteger ≠ true) :
      ∃ s, v = text s := by
    cases v with
    | null => cases hv
    | integer n => exact absurd rfl hi
    | text s => exact ⟨s, rfl⟩
  have ha : a.isInteger ≠ true := fun hi => hac ⟨m, n, hab.left, hbc.right, .inl hi⟩
  have hc : c.isInteger ≠ true := fun hi => hac ⟨m, n, hab.left, hbc.right, .inr hi⟩
  refine ⟨?_, htext hab.left ha, htext hbc.right hc⟩
  have hb : b.isInteger = true := hab.integer.resolve_left ha
  have hi := hab.right
  cases b with
  | null => cases hb
  | integer n => exact congrArg integer (Option.some.inj hi)
  | text s => cases hb

end Kinds

namespace Coherent

variable {p : Value → Prop} {a b c : Value} {m n : Int64}

/-- Two values that compare as numbers form no circle with one that compares as a text with both. -/
theorem not_circle (h : Coherent p) (ha : p a) (hb : p b) (hc : p c) (hnull : c ≠ null)
    (hab : AsNumbers a b) (hbc : ¬AsNumbers b c) (hca : ¬AsNumbers c a) : ¬Circle a b c := by
  rintro ⟨hab', hbc', hca'⟩
  obtain ⟨m, n, hmn⟩ := hab
  have hnone := toInteger?_eq_none hmn (fun hac => hca hac.symm) hbc
  obtain ⟨t, rfl⟩ : ∃ t, c = text t := by
    cases c with
    | null => exact absurd rfl hnull
    | integer k => cases hnone
    | text t => exact ⟨t, rfl⟩
  -- values with one text read as one number, so the third text is none of the other two
  have hne {v : Value} {k : Int64} (hv : v.toInteger? = some k) : v.display ≠ t := by
    rintro rfl
    have hread := toInteger?_display (a := v) (by rintro rfl; cases hv)
    rw [hnone, hv] at hread
    cases hread
  rw [atMost_of_comparesAs hmn] at hab'
  rw [atMost_of_not_comparesAs (by rintro rfl; cases hmn.right) hnull hbc] at hbc'
  rw [atMost_of_not_comparesAs hnull (by rintro rfl; cases hmn.left) hca] at hca'
  have hbt : compare b.display t = .lt := by
    cases ho : compare b.display t with
    | lt => rfl
    | eq => exact absurd (Std.compare_eq_iff_eq.mp ho) (hne hmn.right)
    | gt => exact absurd ho hbc'
  cases ho : compare t a.display with
  | lt => exact h.text_between ha hb hc hnone hmn hab' hbt ho
  | eq => exact hne hmn.left (Std.compare_eq_iff_eq.mp ho).symm
  | gt => exact hca' ho

/-- An integer and two texts that it lies between as a number are equal if they form a circle. -/
theorem circle_of_between (h : Coherent p) (ha : p a) (hb : p b) (hc : p c)
    (hab : AsNumbers a b) (hbc : AsNumbers b c) (hca : ¬AsNumbers c a) (hcircle : Circle a b c) :
    Circle a c b := by
  obtain ⟨hab', hbc', hca'⟩ := hcircle
  obtain ⟨l, m, hlm⟩ := hab
  obtain ⟨m', n, hmn⟩ := hbc
  obtain rfl := Option.some.inj (hlm.right.symm.trans hmn.left)
  obtain ⟨rfl, ⟨s, rfl⟩, t, rfl⟩ := exists_integer_between hlm hmn fun hac => hca hac.symm
  rw [atMost_of_comparesAs hlm] at hab'
  rw [atMost_of_comparesAs hmn] at hbc'
  rw [atMost_of_not_comparesAs (text_ne_null t) (text_ne_null s) hca] at hca'
  have heq : t = s := by
    cases ho : compare t s with
    | lt => exact absurd ho (h.number_between hb hc ha hmn.right hlm.left hab' hbc')
    | eq => exact Std.compare_eq_iff_eq.mp ho
    | gt => exact absurd ho hca'
  subst heq
  obtain rfl := Option.some.inj (hlm.left.symm.trans hmn.right)
  refine ⟨?_, (atMost_of_comparesAs hmn.symm).mpr hab', (atMost_of_comparesAs hlm.symm).mpr hbc'⟩
  exact ⟨.eq, by rw [order_text, Std.ReflOrd.compare_self], by decide⟩

theorem circle_reverse (h : Coherent p) (hnull : ∀ v, p v → v ≠ null) (ha : p a) (hb : p b)
    (hc : p c) (hcircle : Circle a b c) : Circle a c b := by
  have hna := hnull a ha
  have hnb := hnull b hb
  have hnc := hnull c hc
  by_cases hab : AsNumbers a b <;> by_cases hbc : AsNumbers b c <;> by_cases hca : AsNumbers c a
  · exact ⟨atMost_trans_of_asNumbers hab hbc hca.symm hcircle.1 hcircle.2.1,
      atMost_trans_of_asNumbers hca hab hbc.symm hcircle.2.2 hcircle.1,
      atMost_trans_of_asNumbers hbc hca hab.symm hcircle.2.1 hcircle.2.2⟩
  · exact h.circle_of_between ha hb hc hab hbc hca hcircle
  · exact (h.circle_of_between hc ha hb hca hab hbc hcircle.rotate.rotate).rotate.rotate
  · exact absurd hcircle (h.not_circle ha hb hc hnc hab hbc hca)
  · exact (h.circle_of_between hb hc ha hbc hca hab hcircle.rotate).rotate
  · exact absurd hcircle.rotate (h.not_circle hb hc ha hna hbc hca hab)
  · exact absurd hcircle.rotate.rotate (h.not_circle hc ha hb hnb hca hab hbc)
  · have hba : ¬AsNumbers b a := fun hn => hab hn.symm
    have hcb : ¬AsNumbers c b := fun hn => hbc hn.symm
    have hac : ¬AsNumbers a c := fun hn => hca hn.symm
    exact ⟨atMost_trans_of_not_asNumbers hna hnb hnc hab hbc hac hcircle.1 hcircle.2.1,
      atMost_trans_of_not_asNumbers hnc hna hnb hca hab hcb hcircle.2.2 hcircle.1,
      atMost_trans_of_not_asNumbers hnb hnc hna hbc hca hba hcircle.2.1 hcircle.2.2⟩

theorem transitiveOn (h : Coherent p) (hnull : ∀ v, p v → v ≠ null) : TransitiveOn p := by
  intro a b c ha hb hc hab hbc
  rcases atMost_total (hnull a ha) (hnull c hc) with hac | hca
  · exact hac
  · exact (h.circle_reverse hnull ha hb hc ⟨hab, hbc, hca⟩).1

end Coherent

/-- An order that is transitive does not put a number or a text between others that stand the other
way round. -/
theorem coherent_of_transitiveOn {p : Value → Prop} (h : TransitiveOn p) : Coherent p where
  number_between {i m n s t} hi hs ht hm hn hni him hlt := by
    have hti : (text t).AtMost (integer i) :=
      (atMost_of_comparesAs ⟨hn, rfl, .inr rfl⟩).mpr hni
    have his : (integer i).AtMost (text s) :=
      (atMost_of_comparesAs ⟨rfl, hm, .inl rfl⟩).mpr him
    obtain ⟨o, ho, hle⟩ := h _ _ _ ht hi hs hti his
    rw [order_text] at ho
    exact hle ((Option.some.inj ho).symm.trans (Std.OrientedCmp.gt_of_lt hlt))
  text_between {a b m n t} ha hb ht hnumber hab hmn hbt hta := by
    have hword {v : Value} : ¬AsNumbers (text t) v := by
      rintro ⟨k, l, hk⟩
      rw [hk.left] at hnumber
      cases hnumber
    have hna : a ≠ null := by
      rintro rfl
      cases hab.left
    have hnb : b ≠ null := by
      rintro rfl
      cases hab.right
    have hta' : (text t).AtMost a :=
      (atMost_of_not_comparesAs (text_ne_null t) hna hword).mpr fun hgt => by
        rw [display, hta] at hgt
        cases hgt
    have hle := h _ _ _ ht ha hb hta' ((atMost_of_comparesAs hab).mpr hmn)
    rw [atMost_of_not_comparesAs (text_ne_null t) hnb hword] at hle
    exact hle (Std.OrientedCmp.gt_of_lt hbt)

theorem coherent_integers : Coherent fun v => ∃ n, v = integer n where
  number_between _ hs := by
    obtain ⟨n, hn⟩ := hs
    cases hn
  text_between _ _ ht := by
    obtain ⟨n, hn⟩ := ht
    cases hn

theorem coherent_texts : Coherent fun v => ∃ s, v = text s where
  number_between hi := by
    obtain ⟨s, hs⟩ := hi
    cases hs
  text_between := by
    rintro _ _ m n t ⟨s, rfl⟩ ⟨u, rfl⟩ - - ⟨-, -, h | h⟩
    · cases h
    · cases h

theorem TransitiveOn.mono {p q : Value → Prop} (h : TransitiveOn q) (hpq : ∀ v, p v → q v) :
    TransitiveOn p :=
  fun a b c ha hb hc => h a b c (hpq a ha) (hpq b hb) (hpq c hc)

/-- Values that are not null are ordered, either way round. Their order is transitive exactly where
the order of numbers and the order of texts do not contradict each other, so always among integers
and always among texts. -/
theorem order_transitiveOn_iff :
    (∀ a b : Value, a ≠ null → b ≠ null →
      ∃ o, a.order b = some o ∧ b.order a = some o.swap) ∧
    (∀ p : Value → Prop, (∀ v, p v → v ≠ null) → (TransitiveOn p ↔ Coherent p)) ∧
    ∀ p : Value → Prop, ((∀ v, p v → ∃ n, v = integer n) ∨ ∀ v, p v → ∃ s, v = text s) →
      TransitiveOn p := by
  refine ⟨fun a b => order_total, ?_, ?_⟩
  · exact fun p hnull => ⟨coherent_of_transitiveOn, fun h => h.transitiveOn hnull⟩
  · rintro p (hp | hp)
    · refine (coherent_integers.transitiveOn ?_).mono hp
      rintro _ ⟨n, rfl⟩ h
      cases h
    · refine (coherent_texts.transitiveOn ?_).mono hp
      rintro _ ⟨s, rfl⟩
      exact text_ne_null s

/-- A number, the text of a smaller one and a text that is no number agree. -/
theorem order_transitiveOn_sample :
    (∃ o, (integer 10).order (text "9") = some o ∧ (text "9").order (integer 10) = some o.swap) ∧
      (∀ v ∈ [integer 10, text "9", text "x"], v ≠ null) ∧
      TransitiveOn (· ∈ [integer 10, text "9", text "x"]) ∧
      TransitiveOn (· ∈ [text "10", text "9", text "x"]) := by
  have hnull : ∀ v ∈ [integer 10, text "9", text "x"], v ≠ null := by decide
  have hx : (text "x").toInteger? = none := by decide
  have hcoherent : Coherent (· ∈ [integer 10, text "9", text "x"]) := by
    refine ⟨?_, ?_⟩
    · intro i m n s t _ hs ht hm hn _ _
      simp only [List.mem_cons, text.injEq, reduceCtorEq, List.not_mem_nil, or_false,
        false_or] at hs ht
      rcases hs with rfl | rfl <;> rcases ht with rfl | rfl
      · decide
      · cases hx.symm.trans hn
      · decide
      · decide
    · intro a b m n t ha _ ht hnumber hab _ _
      simp only [List.mem_cons, text.injEq, reduceCtorEq, List.not_mem_nil, or_false,
        false_or] at ha ht
      rcases ht with rfl | rfl
      · exact absurd hnumber (by decide)
      · rcases ha with rfl | rfl | rfl <;> decide
  refine ⟨order_transitiveOn_iff.1 _ _ (by decide) (by decide), hnull,
    (order_transitiveOn_iff.2.1 _ hnull).mpr hcoherent, order_transitiveOn_iff.2.2 _ (.inr ?_)⟩
  simp

/-- Ten comes before nine as a text, but not before the number nine. -/
theorem order_circle :
    (text "10").order (text "9") = some .lt ∧ (text "9").order (integer 9) = some .eq ∧
      (text "10").order (integer 9) = some .gt ∧ ¬TransitiveOn (· ≠ null) := by
  have hts : (text "10").order (text "9") = some .lt := by decide
  have hsi : (text "9").order (integer 9) = some .eq := by decide
  have hti : (text "10").order (integer 9) = some .gt := by decide
  refine ⟨hts, hsi, hti, fun h => ?_⟩
  obtain ⟨o, ho, hle⟩ := h (text "10") (text "9") (integer 9) (by decide) (by decide) (by decide)
    ⟨_, hts, by decide⟩ ⟨_, hsi, by decide⟩
  exact hle (Option.some.inj (ho.symm.trans hti))

end TableSearch.Value
