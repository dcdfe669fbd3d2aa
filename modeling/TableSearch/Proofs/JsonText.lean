import Mathlib.Tactic.SplitIfs
import TableSearch.Json.Printer
import TableSearch.Json.Reader
import TableSearch.Proofs.Digits

/-!
# JSON text read back

A tree whose numbers are in the range of binary64 and which nests at most 127 levels deep is what
its text is read as (`read?_write`): each character is escaped and read on its own, a number ends
where no digit, point or exponent goes on, and lists and records are read item by item, by
induction on the levels below them.
-/
namespace TableSearch.Json

open Reader

section Strings

theorem hexValue?_hexDigit {n : Nat} (h : n < 16) : hexValue? (hexDigit n) = some n := by
  have hdigit : ∀ n : Fin 16, hexValue? (hexDigit n) = some n.val := by decide
  exact hdigit ⟨n, h⟩

theorem hexNumber?_hexDigit {n : Nat} (h : n < 256) :
    hexNumber? ['0', '0', hexDigit (n / 16), hexDigit (n % 16)] = some n := by
  have hhigh : hexValue? (hexDigit (n / 16)) = some (n / 16) := hexValue?_hexDigit (by omega)
  have hlow : hexValue? (hexDigit (n % 16)) = some (n % 16) := hexValue?_hexDigit (by omega)
  have hzero : hexValue? '0' = some 0 := rfl
  simp only [hexNumber?, List.foldl_cons, List.foldl_nil, hzero, hhigh, hlow]
  change some _ = some n
  congr 1
  omega

theorem string?_short {e c : Char} (cs acc : List Char) (h : shortEscape? e = some c) :
    string? ('\\' :: e :: cs) acc = string? cs (c :: acc) := by
  unfold shortEscape? at h
  split at h <;> cases h <;> rw [string?] <;> simp [shortEscape?]

theorem string?_unicode {a b c d : Char} {n : Nat} (cs acc : List Char)
    (h : hexNumber? [a, b, c, d] = some n) (hn : n < 0xD800) :
    string? ('\\' :: 'u' :: a :: b :: c :: d :: cs) acc = string? cs (Char.ofNat n :: acc) := by
  rw [string?.eq_def]
  simp only [h, Option.bind_eq_bind, Option.bind_some, Bool.and_eq_true, decide_eq_true_eq]
  rw [if_neg (by omega), if_neg (by omega)]

theorem string?_plain {c : Char} (cs acc : List Char) (hquote : c ≠ '"') (hslash : c ≠ '\\')
    (h : ¬c.toNat < 0x20) : string? (c :: cs) acc = string? cs (c :: acc) := by
  rw [string?.eq_def]
  split
  · rename_i heq
    cases heq
  · rename_i heq
    cases heq
    exact absurd rfl hquote
  · rename_i heq
    cases heq
    exact absurd rfl hslash
  · rename_i heq
    cases heq
    exact absurd rfl hslash
  · rename_i heq
    cases heq
    rw [if_neg h]

theorem string?_escape (c : Char) (cs acc : List Char) :
    string? (escape c ++ cs) acc = string? cs (c :: acc) := by
  unfold escape
  split_ifs with hquote hslash hn hr ht hb hf hcontrol
  · exact string?_short cs acc (by rw [eq_of_beq hquote]; rfl)
  · exact string?_short cs acc (by rw [eq_of_beq hslash]; rfl)
  · exact string?_short cs acc (by rw [eq_of_beq hn]; rfl)
  · exact string?_short cs acc (by rw [eq_of_beq hr]; rfl)
  · exact string?_short cs acc (by rw [eq_of_beq ht]; rfl)
  · exact string?_short cs acc (by rw [eq_of_beq hb]; rfl)
  · exact string?_short cs acc (by rw [eq_of_beq hf]; rfl)
  · have hread := string?_unicode cs acc (hexNumber?_hexDigit (show c.toNat < 256 by omega))
      (by omega)
    rwa [Char.ofNat_toNat] at hread
  · exact string?_plain cs acc (by simpa using hquote) (by simpa using hslash) hcontrol

theorem string?_escapes (cs rest acc : List Char) :
    string? (cs.flatMap escape ++ '"' :: rest) acc =
      some (String.ofList (acc.reverse ++ cs), rest) := by
  induction cs generalizing acc with
  | nil => simp [string?]
  | cons c cs ih => simp [string?_escape, ih]

theorem toList_quote (s : String) : (quote s).toList = '"' :: (s.toList.flatMap escape ++ ['"']) :=
  String.toList_ofList

/-- A quoted text is read as that text. -/
theorem string?_quote (s : String) (rest : List Char) :
    string? (s.toList.flatMap escape ++ '"' :: rest) [] = some (s, rest) := by
  rw [string?_escapes]
  simp

end Strings

section Numbers

/-- What may follow a number: nothing that would go on with it. -/
def Ends (rest : List Char) : Prop :=
  ∀ c ∈ rest.head?, c.isDigit = false ∧ c ≠ '.' ∧ c ≠ 'e' ∧ c ≠ 'E'

theorem fraction?_eq {cs : List Char} (h : ∀ c ∈ cs.head?, c ≠ '.') :
    fraction? cs = some (none, cs) := by
  unfold fraction?
  split
  · exact absurd rfl (h '.' rfl)
  · rfl

theorem power?_eq {cs : List Char} (h : ∀ c ∈ cs.head?, c ≠ 'e' ∧ c ≠ 'E') :
    power? cs = some (none, cs) := by
  unfold power?
  split
  · exact absurd rfl (h 'e' rfl).1
  · exact absurd rfl (h 'E' rfl).2
  · rfl

theorem number?_toDigits (negative : Bool) {n : Nat} {rest : List Char} (hends : Ends rest)
    (hfinite : isFinite n 0) (hzero : negative = false ∨ n ≠ 0) :
    number? negative (Nat.toDigits 10 n ++ rest) =
      some (integer (if negative then -(n : Int) else n), rest) := by
  unfold number?
  simp only [Text.takeWhile_toDigits n fun c hc => (hends c hc).1,
    Text.dropWhile_toDigits n fun c hc => (hends c hc).1, Text.isEmpty_toDigits, Text.toDigits_head,
    fraction?_eq fun c hc => (hends c hc).2.1]
  simp [power?_eq fun c hc => (hends c hc).2.2, Nat.ofDigitChars_ten_toDigits, hfinite, hzero]

theorem sign_toDigits (n : Nat) (rest : List Char) :
    sign (Nat.toDigits 10 n ++ rest) = (false, Nat.toDigits 10 n ++ rest) := by
  obtain ⟨c, cs, h, hdigit⟩ := Text.exists_toDigits n
  rw [h, List.cons_append]
  unfold sign
  split
  · rename_i heq
    cases heq
    exact absurd hdigit (by decide)
  · rename_i heq
    cases heq
    exact absurd hdigit (by decide)
  · rfl

theorem exponent?_integerChars (e : Int) {rest : List Char} (hends : Ends rest) :
    exponent? (Text.integerChars e ++ rest) = some (e, rest) := by
  have hdigit : ∀ c ∈ rest.head?, c.isDigit = false := fun c hc => (hends c hc).1
  cases e with
  | ofNat n =>
    simp only [exponent?, Text.integerChars, sign_toDigits, Text.takeWhile_toDigits n hdigit,
      Text.dropWhile_toDigits n hdigit, Text.isEmpty_toDigits, Nat.ofDigitChars_ten_toDigits]
    rfl
  | negSucc n =>
    simp only [exponent?, Text.integerChars, List.cons_append, sign,
      Text.takeWhile_toDigits (n + 1) hdigit, Text.dropWhile_toDigits (n + 1) hdigit,
      Text.isEmpty_toDigits, Nat.ofDigitChars_ten_toDigits]
    rfl

theorem number?_decimal (negative : Bool) (n : Nat) (e : Int) {rest : List Char}
    (hends : Ends rest) (hfinite : isFinite n e) :
    number? negative (Nat.toDigits 10 n ++ 'e' :: (Text.integerChars e ++ rest)) =
      some (decimal negative n e, rest) := by
  have hstop : ∀ c ∈ ('e' :: (Text.integerChars e ++ rest)).head?, c.isDigit = false := by
    rintro c ⟨⟩
    rfl
  have hpoint : ∀ c ∈ ('e' :: (Text.integerChars e ++ rest)).head?, c ≠ '.' := by
    rintro c ⟨⟩
    decide
  unfold number?
  simp only [Text.takeWhile_toDigits n hstop, Text.dropWhile_toDigits n hstop,
    Text.isEmpty_toDigits, Text.toDigits_head, fraction?_eq hpoint]
  simp [power?, exponent?_integerChars e hends, Nat.ofDigitChars_ten_toDigits, hfinite]

end Numbers

section Texts

def chars (j : Json) : List Char := j.write.toList

def itemsChars (items : List Json) : List Char := (",".intercalate (writeItems items)).toList

def fieldsChars (fields : List (String × Json)) : List Char :=
  (",".intercalate (writeFields fields)).toList

@[simp] theorem chars_list (items : List Json) :
    chars (list items) = '[' :: (itemsChars items ++ [']']) := by
  simp [chars, write, itemsChars]

@[simp] theorem chars_record (fields : List (String × Json)) :
    chars (record fields) = '\x7b' :: (fieldsChars fields ++ ['\x7d']) := by
  simp [chars, write, fieldsChars]

@[simp] theorem chars_text (s : String) :
    chars (text s) = '"' :: (s.toList.flatMap escape ++ ['"']) := by
  rw [chars, write, toList_quote]

@[simp] theorem chars_integer (n : Int) : chars (integer n) = Text.integerChars n := by
  simp [chars, write, Text.writeInteger]

theorem chars_decimal (negative : Bool) (n : Nat) (e : Int) :
    chars (decimal negative n e) =
      (if negative then ['-'] else []) ++ Nat.toDigits 10 n ++ 'e' :: Text.integerChars e := by
  cases negative <;> simp [chars, write, Text.writeInteger, Text.writeNat]

@[simp] theorem itemsChars_singleton (item : Json) : itemsChars [item] = chars item := by
  simp [itemsChars, writeItems, chars]

@[simp] theorem itemsChars_cons_cons (item next : Json) (items : List Json) :
    itemsChars (item :: next :: items) = chars item ++ ',' :: itemsChars (next :: items) := by
  simp [itemsChars, writeItems, chars]

@[simp] theorem fieldsChars_singleton (name : String) (value : Json) :
    fieldsChars [(name, value)] =
      '"' :: (name.toList.flatMap escape ++ '"' :: ':' :: chars value) := by
  simp [fieldsChars, writeFields, chars, toList_quote]

@[simp] theorem fieldsChars_cons_cons (name : String) (value : Json) (next : String × Json)
    (fields : List (String × Json)) :
    fieldsChars ((name, value) :: next :: fields) =
      '"' :: (name.toList.flatMap escape ++ '"' :: ':' ::
        (chars value ++ ',' :: fieldsChars (next :: fields))) := by
  simp [fieldsChars, writeFields, chars, toList_quote]

theorem isBlank_of_isDigit {c : Char} (h : c.isDigit) : isBlank c = false := by
  simp only [isBlank, Bool.or_eq_false_iff, beq_eq_false_iff_ne]
  refine ⟨⟨⟨?_, ?_⟩, ?_⟩, ?_⟩ <;> rintro rfl <;> exact absurd h (by decide)

theorem exists_chars (j : Json) : ∃ c cs, chars j = c :: cs ∧ isBlank c = false ∧ c ≠ ']' := by
  cases j with
  | null => exact ⟨'n', _, rfl, rfl, by decide⟩
  | bool b =>
    cases b with
    | false => exact ⟨'f', _, rfl, rfl, by decide⟩
    | true => exact ⟨'t', _, rfl, rfl, by decide⟩
  | integer n =>
    cases n with
    | ofNat n =>
      obtain ⟨c, cs, h, hdigit⟩ := Text.exists_toDigits n
      refine ⟨c, cs, (chars_integer _).trans h, isBlank_of_isDigit hdigit, ?_⟩
      rintro rfl
      exact absurd hdigit (by decide)
    | negSucc n => exact ⟨'-', _, chars_integer _, rfl, by decide⟩
  | decimal negative n e =>
    rw [chars_decimal]
    cases negative with
    | false =>
      obtain ⟨c, cs, h, hdigit⟩ := Text.exists_toDigits n
      refine ⟨c, cs ++ 'e' :: Text.integerChars e, by rw [h]; rfl, isBlank_of_isDigit hdigit, ?_⟩
      rintro rfl
      exact absurd hdigit (by decide)
    | true => exact ⟨'-', _, rfl, rfl, by decide⟩
  | text s => exact ⟨'"', _, chars_text s, rfl, by decide⟩
  | list items => exact ⟨'[', _, chars_list items, rfl, by decide⟩
  | record fields => exact ⟨'\x7b', _, chars_record fields, rfl, by decide⟩

end Texts

section Values

theorem skip_cons {c : Char} (cs : List Char) (h : isBlank c = false) :
    skip (c :: cs) = c :: cs := by
  simp [skip, h]

theorem value?_digit {c : Char} (fuel depth : Nat) (cs : List Char) (h : c.isDigit) :
    value? (fuel + 1) depth (c :: cs) = number? false (c :: cs) := by
  rw [value?, skip_cons cs (isBlank_of_isDigit h)]
  split
  any_goals
    rename_i heq
    cases heq
    exact absurd h (by decide)
  rfl

/-- A tree that a text can hold: its numbers are in the range of binary64, and lists and records
nest at most as many levels deep. -/
inductive Legible : Nat → Json → Prop where
  | null {levels : Nat} : Legible levels null
  | bool {levels : Nat} (b : Bool) : Legible levels (bool b)
  | text {levels : Nat} (s : String) : Legible levels (text s)
  | integer {levels : Nat} {n : Int} : isFinite n.natAbs 0 → Legible levels (integer n)
  | decimal {levels digits : Nat} {exponent : Int} (negative : Bool) :
      isFinite digits exponent → Legible levels (decimal negative digits exponent)
  | list {levels : Nat} {items : List Json} :
      (∀ item ∈ items, Legible levels item) → Legible (levels + 1) (list items)
  | record {levels : Nat} {fields : List (String × Json)} :
      (∀ field ∈ fields, Legible levels field.2) → Legible (levels + 1) (record fields)

/-- The reader finds a tree in front of whatever ends it. -/
def Found (levels : Nat) (j : Json) : Prop :=
  ∀ (fuel depth : Nat) (rest : List Char), levels < depth → 2 * (chars j).length ≤ fuel + 2 →
    Ends rest → value? (fuel + 1) depth (chars j ++ rest) = some (j, rest)

theorem ends_cons {c : Char} (rest : List Char) (h : c = ',' ∨ c = ']' ∨ c = '\x7d') :
    Ends (c :: rest) := by
  rintro d ⟨⟩
  rcases h with rfl | rfl | rfl <;> decide

variable {levels : Nat}

theorem found_integer {n : Int} (h : isFinite n.natAbs 0) : Found levels (integer n) := by
  intro fuel depth rest _ _ hends
  rw [chars_integer]
  cases n with
  | ofNat n =>
    obtain ⟨c, cs, hdigits, hdigit⟩ := Text.exists_toDigits n
    rw [Text.integerChars, hdigits, List.cons_append, value?_digit _ _ _ hdigit,
      ← List.cons_append, ← hdigits]
    exact number?_toDigits false hends h (.inl rfl)
  | negSucc n =>
    rw [Text.integerChars, List.cons_append, value?, skip_cons _ rfl]
    exact number?_toDigits true hends h (.inr (Nat.succ_ne_zero n))

theorem found_decimal {digits : Nat} {exponent : Int} (negative : Bool)
    (h : isFinite digits exponent) : Found levels (decimal negative digits exponent) := by
  intro fuel depth rest _ _ hends
  have hnumber := number?_decimal negative digits exponent hends h
  rw [chars_decimal, List.append_assoc, List.append_assoc]
  cases negative with
  | false =>
    obtain ⟨c, cs, hdigits, hdigit⟩ := Text.exists_toDigits digits
    rw [hdigits] at hnumber ⊢
    exact (value?_digit fuel depth _ hdigit).trans hnumber
  | true =>
    change value? (fuel + 1) depth ('-' :: _) = _
    rw [value?, skip_cons _ rfl]
    exact hnumber

theorem found_text (s : String) : Found levels (text s) := by
  intro fuel depth rest _ _ _
  rw [chars_text, List.cons_append, List.append_assoc, value?, skip_cons _ rfl]
  change (string? (s.toList.flatMap escape ++ '"' :: rest) []).map _ = _
  rw [string?_quote]
  rfl

theorem one_le_length_chars (j : Json) : 1 ≤ (chars j).length := by
  obtain ⟨c, cs, h, -⟩ := exists_chars j
  simp [h]

theorem items?_itemsChars {item : Json} {items : List Json}
    (hfound : ∀ j ∈ item :: items, Found levels j) (acc : List Json) (fuel : Nat) {depth : Nat}
    (rest : List Char) (hdepth : levels < depth)
    (hfuel : 2 * (itemsChars (item :: items)).length ≤ fuel + 1) :
    items? (fuel + 1) depth (itemsChars (item :: items) ++ ']' :: rest) acc =
      some (list (acc.reverse ++ item :: items), rest) := by
  induction items generalizing item acc fuel with
  | nil =>
    rw [itemsChars_singleton] at hfuel ⊢
    obtain ⟨fuel, rfl⟩ : ∃ k, fuel = k + 1 :=
      ⟨fuel - 1, by have := one_le_length_chars item; omega⟩
    rw [items?, hfound item List.mem_cons_self fuel depth _ hdepth (by omega)
      (ends_cons rest (.inr (.inl rfl)))]
    change some (list (item :: acc).reverse, rest) = _
    rw [List.reverse_cons]
  | cons next items ih =>
    rw [itemsChars_cons_cons] at hfuel ⊢
    rw [List.length_append, List.length_cons] at hfuel
    obtain ⟨fuel, rfl⟩ : ∃ k, fuel = k + 1 := ⟨fuel - 1, by omega⟩
    rw [List.append_assoc, List.cons_append, items?,
      hfound item List.mem_cons_self fuel depth _ hdepth (by omega) (ends_cons _ (.inl rfl))]
    change items? (fuel + 1) depth (itemsChars (next :: items) ++ ']' :: rest) (item :: acc) = _
    rw [ih (fun j hj => hfound j (List.mem_cons_of_mem _ hj)) (item :: acc) fuel (by omega)]
    simp

theorem fields?_fieldsChars {field : String × Json} {fields : List (String × Json)}
    (hfound : ∀ f ∈ field :: fields, Found levels f.2) (acc : List (String × Json)) (fuel : Nat)
    {depth : Nat} (rest : List Char) (hdepth : levels < depth)
    (hfuel : 2 * (fieldsChars (field :: fields)).length ≤ fuel + 1) :
    fields? (fuel + 1) depth (fieldsChars (field :: fields) ++ '\x7d' :: rest) acc =
      some (record (acc.reverse ++ field :: fields), rest) := by
  induction fields generalizing field acc fuel with
  | nil =>
    obtain ⟨name, value⟩ := field
    have hvalue : Found levels value := hfound (name, value) List.mem_cons_self
    rw [fieldsChars_singleton] at hfuel ⊢
    simp only [List.length_cons, List.length_append] at hfuel
    obtain ⟨fuel, rfl⟩ : ∃ k, fuel = k + 1 := ⟨fuel - 1, by omega⟩
    rw [List.cons_append, List.append_assoc, fields?, skip_cons _ rfl]
    simp only [List.cons_append, string?_quote, skip_cons _ (show isBlank ':' = false by rfl)]
    rw [hvalue fuel depth _ hdepth (by omega) (ends_cons rest (.inr (.inr rfl)))]
    change some (record ((name, value) :: acc).reverse, rest) = _
    rw [List.reverse_cons]
  | cons next fields ih =>
    obtain ⟨name, value⟩ := field
    have hvalue : Found levels value := hfound (name, value) List.mem_cons_self
    rw [fieldsChars_cons_cons] at hfuel ⊢
    simp only [List.length_cons, List.length_append] at hfuel
    obtain ⟨fuel, rfl⟩ : ∃ k, fuel = k + 1 := ⟨fuel - 1, by omega⟩
    rw [List.cons_append, List.append_assoc, fields?, skip_cons _ rfl]
    simp only [List.cons_append, List.append_assoc, string?_quote,
      skip_cons _ (show isBlank ':' = false by rfl)]
    rw [hvalue fuel depth _ hdepth (by omega) (ends_cons _ (.inl rfl))]
    change fields? (fuel + 1) depth (fieldsChars (next :: fields) ++ '\x7d' :: rest)
      ((name, value) :: acc) = _
    rw [ih (fun f hf => hfound f (List.mem_cons_of_mem _ hf)) ((name, value) :: acc) fuel
      (by omega)]
    simp

theorem exists_itemsChars (item : Json) (items : List Json) :
    ∃ c cs, itemsChars (item :: items) = c :: cs ∧ isBlank c = false ∧ c ≠ ']' := by
  obtain ⟨c, cs, h, hhead⟩ := exists_chars item
  cases items with
  | nil => exact ⟨c, cs, by rw [itemsChars_singleton, h], hhead⟩
  | cons next items => exact ⟨c, _, by rw [itemsChars_cons_cons, h, List.cons_append], hhead⟩

theorem found_list {items : List Json} (h : ∀ item ∈ items, Found levels item) :
    Found (levels + 1) (list items) := by
  intro fuel depth rest hdepth hfuel _
  have hopen : ¬depth ≤ 1 := by omega
  rw [chars_list, List.length_cons, List.length_append, List.length_singleton] at hfuel
  obtain ⟨fuel, rfl⟩ : ∃ k, fuel = k + 1 := ⟨fuel - 1, by omega⟩
  rw [chars_list, List.cons_append, List.append_assoc, value?, skip_cons _ rfl]
  change (if depth ≤ 1 then none else _) = _
  rw [if_neg hopen]
  cases items with
  | nil => rfl
  | cons item items =>
    obtain ⟨c, cs, hchars, hblank, hbracket⟩ := exists_itemsChars item items
    have hitems := items?_itemsChars h [] fuel rest (show levels < depth - 1 by omega) (by omega)
    rw [hchars, List.cons_append] at hitems ⊢
    rw [skip_cons _ hblank]
    split
    · rename_i heq
      cases heq
      exact absurd rfl hbracket
    · exact hitems

theorem found_record {fields : List (String × Json)} (h : ∀ field ∈ fields, Found levels field.2) :
    Found (levels + 1) (record fields) := by
  intro fuel depth rest hdepth hfuel _
  have hopen : ¬depth ≤ 1 := by omega
  rw [chars_record, List.length_cons, List.length_append, List.length_singleton] at hfuel
  obtain ⟨fuel, rfl⟩ : ∃ k, fuel = k + 1 := ⟨fuel - 1, by omega⟩
  rw [chars_record, List.cons_append, List.append_assoc, value?, skip_cons _ rfl]
  change (if depth ≤ 1 then none else _) = _
  rw [if_neg hopen]
  cases fields with
  | nil => rfl
  | cons field fields =>
    obtain ⟨cs, hchars⟩ : ∃ cs, fieldsChars (field :: fields) = '"' :: cs := by
      cases fields with
      | nil => exact ⟨_, fieldsChars_singleton field.1 field.2⟩
      | cons next fields => exact ⟨_, fieldsChars_cons_cons field.1 field.2 next fields⟩
    have hfields := fields?_fieldsChars h [] fuel rest (show levels < depth - 1 by omega) (by omega)
    rw [hchars, List.cons_append] at hfields ⊢
    rw [skip_cons _ rfl]
    exact hfields

theorem found {j : Json} (h : Legible levels j) : Found levels j := by
  induction h with
  | null =>
    intro fuel depth rest _ _ _
    rfl
  | bool b =>
    intro fuel depth rest _ _ _
    cases b <;> rfl
  | text s => exact found_text s
  | integer h => exact found_integer h
  | decimal negative h => exact found_decimal negative h
  | list _ ih => exact found_list ih
  | record _ ih => exact found_record ih

end Values

/-- Reading undoes writing. -/
theorem read?_write {j : Json} (h : Legible 127 j) : read? j.write = some j := by
  have hfound := found h (2 * (chars j).length + 1) maxDepth [] (by decide) (by omega) nofun
  rw [List.append_nil] at hfound
  unfold chars at hfound
  unfold read?
  simp only [hfound]
  rfl

end TableSearch.Json
