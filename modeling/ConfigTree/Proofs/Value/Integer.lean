import ConfigTree.Proofs.Value.Grammar

set_option relaxedAutoImplicit false
set_option autoImplicit false

/-!
# Integer literals and the integers of 64 bits

An integer literal denotes an integer of any size. Inference gives this integer if it has 64 bits,
and otherwise leaves the text as it is; no step on the way wraps around.

There is one exception. In a base other than ten the reader takes the absolute value first and puts
the sign to it afterwards. The least integer of 64 bits has no absolute value of 64 bits, so that
only its decimal literals are read.

## Main definitions

* `ConfigTree.Value.IntegerLiteral` — the integer literals and the integers that they denote.
* `ConfigTree.Value.IsRead` — the integers whose literals in a base are read.

## Main results

* `ConfigTree.int64?_eq_some_iff_toInt` — an integer of 64 bits is converted exactly.
* `ConfigTree.toInt_ite_neg` — it is negated exactly, if it is an absolute value.
* `ConfigTree.Value.IntegerLiteral.numberLiteral?_eq` — the literals that are read.
* `ConfigTree.Value.infer_integerLiteral` — what inference makes of an integer literal.

## Implementation notes

The grammar of numbers (`ConfigTree.Value.Number`) has the literals that are read. The literals here
are those of integers of any size, so that the bounds are part of the result and not of the grammar.
-/

namespace ConfigTree

open Decimal

/-! ## Integers of 64 bits -/

/-- **The conversion** to 64 bits succeeds exactly for the integers that have a word of 64 bits, and
gives this word. -/
lemma int64?_eq_some_iff_toInt {n : ℤ} {m : Int64} : int64? n = some m ↔ m.toInt = n := by
  rw [Value.int64?_eq_some_iff]
  constructor
  · rintro ⟨⟨hlo, hhi⟩, rfl⟩
    exact Int64.toInt_ofInt_of_le hlo hhi
  · rintro rfl
    exact ⟨⟨Int64.le_toInt m, Int64.toInt_lt m⟩, (Int64.ofInt_toInt m).symm⟩

/-- The integers that have a word of 64 bits are those in its range. -/
lemma exists_int64?_iff {n : ℤ} : (∃ m, int64? n = some m) ↔ -2 ^ 63 ≤ n ∧ n < 2 ^ 63 := by
  constructor
  · rintro ⟨m, hm⟩
    rw [← int64?_eq_some_iff_toInt.mp hm]
    exact ⟨Int64.le_toInt m, Int64.toInt_lt m⟩
  · intro hrange
    exact ⟨_, if_pos hrange⟩

/-- **The sign** is put to a converted absolute value without an overflow.

**Proof sketch.** Negation wraps around at the least word alone, and this is no absolute value. -/
lemma toInt_ite_neg {k : ℕ} {m : Int64} (h : int64? k = some m) (negative : Bool) :
    (if negative then -m else m).toInt = signed negative k := by
  have hm : m.toInt = k := int64?_eq_some_iff_toInt.mp h
  have hhi : m.toInt < 2 ^ 63 := Int64.toInt_lt m
  cases negative with
  | false => exact hm
  | true =>
    show (-m).toInt = -(k : ℤ)
    rw [Int64.toInt_neg, hm]
    apply Int.bmod_eq_of_le
    · omega
    · omega

namespace Value

open Text (trim)

/-! ## The literals -/

/-- The text is an integer literal in a base, and denotes the integer. -/
inductive IntegerLiteral : ℕ → List Char → ℤ → Prop where
  /-- Decimal digits, the first of which is no zero unless all are. -/
  | decimal {text rest : List Char} {first : Char} {negative : Bool} {d : ℕ} {digits : List ℕ}
      (hsign : Signed (first :: rest) text negative) (hfirst : IsDigitOf 10 first d)
      (hrest : Grouped 10 rest digits) (hzero : d = 0 → ∀ e ∈ digits, e = 0) :
      IntegerLiteral 10 text (signed negative (magnitude 10 (d :: digits)))
  /-- Digits in the base that a letter after a zero stands for. -/
  | radix {text word : List Char} {letter : Char} {negative : Bool} {base : ℕ} {digits : List ℕ}
      (hsign : Signed ('0' :: letter :: word) text negative) (hbase : base? letter = some base)
      (hword : Grouped base word digits) (hne : digits ≠ []) :
      IntegerLiteral base text (signed negative (magnitude base digits))

/-- The integer has 64 bits; in a base other than ten it is not the least of these integers. -/
def IsRead (base : ℕ) (n : ℤ) : Prop :=
  -2 ^ 63 ≤ n ∧ n < 2 ^ 63 ∧ (base ≠ 10 → n ≠ -2 ^ 63)

/-- In base ten, the integers of 64 bits are read. -/
lemma isRead_ten_iff {n : ℤ} : IsRead 10 n ↔ ∃ m, int64? n = some m := by
  rw [exists_int64?_iff, IsRead]
  omega

/-- With a base, the absolute value decides. -/
lemma isRead_signed_iff {base k : ℕ} {negative : Bool} (hbase : base ≠ 10) :
    IsRead base (signed negative k) ↔ ∃ m, int64? k = some m := by
  rw [exists_int64?_iff, IsRead]
  cases negative with
  | false =>
    show -2 ^ 63 ≤ (k : ℤ) ∧ (k : ℤ) < 2 ^ 63 ∧ (base ≠ 10 → (k : ℤ) ≠ -2 ^ 63) ↔ _
    omega
  | true =>
    show -2 ^ 63 ≤ -(k : ℤ) ∧ -(k : ℤ) < 2 ^ 63 ∧ (base ≠ 10 → -(k : ℤ) ≠ -2 ^ 63) ↔ _
    omega

/-- No letter stands for base ten. -/
lemma base?_ne_ten {letter : Char} {base : ℕ} (h : base? letter = some base) : base ≠ 10 := by
  rintro rfl
  have hnone : ∀ c ∈ ['x', 'X', 'o', 'O', 'b', 'B'], base? c ≠ some 10 :=
    List.all_iff_forall_prop.mp (by decide)
  exact hnone letter (base?_letter h) h

namespace IntegerLiteral

variable {base : ℕ} {text : List Char} {n : ℤ}

/-- An integer literal starts with a digit or a sign. -/
lemma exists_head (h : IntegerLiteral base text n) :
    ∃ c rest, text = c :: rest ∧ (c.isDigit = true ∨ c ∈ ['.', '+', '-']) := by
  cases h with
  | decimal hsign hfirst =>
    exact hsign.exists_head ⟨_, _, rfl, .inl (isDigitOf_ten_iff.mp hfirst).1⟩
  | radix hsign => exact hsign.exists_head ⟨'0', _, rfl, .inl rfl⟩

/-- **The literals that are read** give the integer that they denote, exactly.

**Proof sketch.** A decimal literal is converted with its sign. A literal with a base is converted
without it, and the sign is put to the word (`toInt_ite_neg`). -/
lemma numberLiteral?_eq (h : IntegerLiteral base text n) (hn : IsRead base n) :
    ∃ m : Int64, m.toInt = n ∧ numberLiteral? text = some (.integer m) := by
  cases h with
  | decimal hsign hfirst hrest hzero =>
    obtain ⟨m, hm⟩ := isRead_ten_iff.mp hn
    have hdecimal := decimalLiteral?_eq_some_iff.mpr
      ⟨_, _, _, _, _, hsign, hfirst, hrest, hzero, rfl⟩
    refine ⟨m, int64?_eq_some_iff_toInt.mp hm, ?_⟩
    rw [numberLiteral?_of_decimal hdecimal, hm, Option.map_some]
  | radix hsign hbase hword hne =>
    obtain ⟨m, hm⟩ := (isRead_signed_iff (base?_ne_ten hbase)).mp hn
    refine ⟨_, toInt_ite_neg hm _, ?_⟩
    rw [numberLiteral?_of_radix hsign hbase hword hne, hm, Option.map_some]

/-- The other literals are not read. -/
lemma numberLiteral?_eq_none (h : IntegerLiteral base text n) (hn : ¬ IsRead base n) :
    numberLiteral? text = none := by
  cases h with
  | decimal hsign hfirst hrest hzero =>
    rw [isRead_ten_iff, not_exists, ← Option.eq_none_iff_forall_ne_some] at hn
    have hdecimal := decimalLiteral?_eq_some_iff.mpr
      ⟨_, _, _, _, _, hsign, hfirst, hrest, hzero, rfl⟩
    rw [numberLiteral?_of_decimal hdecimal, hn, Option.map_none]
  | radix hsign hbase hword hne =>
    rw [isRead_signed_iff (base?_ne_ten hbase), not_exists,
      ← Option.eq_none_iff_forall_ne_some] at hn
    rw [numberLiteral?_of_radix hsign hbase hword hne, hn, Option.map_none]

/-- Around blanks, an integer literal is read as a number or not at all. -/
lemma parseLiteral?_eq (h : IntegerLiteral base (trim text) n) :
    parseLiteral? text = numberLiteral? (trim text) := by
  obtain ⟨c, rest, htext, hc⟩ := h.exists_head
  exact parseLiteral?_of_number_trim htext hc

end IntegerLiteral

/-- **Integer literals.** Inference gives the integer that a literal denotes, with blanks around the
literal or without, for all integers of 64 bits; only the least of them has to be written in decimal
digits. The literals of other integers, and those of the least integer of 64 bits in another base,
stay the texts that they are. No conversion or negation on the way overflows: each word that comes up
is the integer that it stands for.

**Proof sketch.** A text that starts with a digit or a sign is a literal only as a number
(`IntegerLiteral.parseLiteral?_eq`), and the reader of numbers reads exactly these literals
(`IntegerLiteral.numberLiteral?_eq`, `IntegerLiteral.numberLiteral?_eq_none`). -/
theorem infer_integerLiteral {text : String} {base : ℕ} {n : ℤ}
    (h : IntegerLiteral base (trim text.toList) n) :
    (-2 ^ 63 ≤ n → n ≤ 2 ^ 63 - 1 → (base ≠ 10 → n ≠ -2 ^ 63) →
      ∃ m : Int64, m.toInt = n ∧ infer text = .integer m) ∧
    (n < -2 ^ 63 ∨ 2 ^ 63 - 1 < n → infer text = .string text) ∧
    (base ≠ 10 → n = -2 ^ 63 → infer text = .string text) ∧
    (∀ k m, decimalLiteral? (trim text.toList) = some k → int64? k = some m → m.toInt = k) ∧
    ∀ negative k m, radixLiteral? (trim text.toList) = some (negative, k) → int64? k = some m →
      (if negative then -m else m).toInt = signed negative k := by
  have htext (hn : ¬ IsRead base n) : infer text = .string text := by
    rw [infer, h.parseLiteral?_eq, h.numberLiteral?_eq_none hn, Option.getD_none]
  refine ⟨fun hlo hhi hleast => ?_, fun hrange => ?_, fun hbase hleast => ?_, ?_, ?_⟩
  · obtain ⟨m, hm, hread⟩ := h.numberLiteral?_eq ⟨hlo, by omega, hleast⟩
    refine ⟨m, hm, ?_⟩
    rw [infer, h.parseLiteral?_eq, hread, Option.getD_some]
  · apply htext
    rintro ⟨hlo, hhi, -⟩
    omega
  · apply htext
    rintro ⟨-, -, hne⟩
    exact hne hbase hleast
  · intro k m _ hm
    exact int64?_eq_some_iff_toInt.mp hm
  · intro negative k m _ hm
    exact toInt_ite_neg hm negative

/-- The least integer of 64 bits, in decimal digits with a blank before them. -/
theorem infer_integerLiteral_least :
    ∃ m : Int64, m.toInt = -2 ^ 63 ∧ infer " -9_223_372_036_854_775_808" = .integer m := by
  have htext : trim " -9_223_372_036_854_775_808".toList =
      '-' :: '9' :: "_223_372_036_854_775_808".toList := by decide
  have hrest : Grouped 10 "_223_372_036_854_775_808".toList
      [2, 2, 3, 3, 7, 2, 0, 3, 6, 8, 5, 4, 7, 7, 5, 8, 0, 8] :=
    grouped_ten_iff.mpr ⟨"223372036854775808".toList, by decide, by decide⟩
  have hvalue : -2 ^ 63 =
      signed true (magnitude 10 [9, 2, 2, 3, 3, 7, 2, 0, 3, 6, 8, 5, 4, 7, 7, 5, 8, 0, 8]) := by
    decide
  have h : IntegerLiteral 10 (trim " -9_223_372_036_854_775_808".toList) (-2 ^ 63) := by
    rw [htext, hvalue]
    exact .decimal .minus (by decide) hrest (by decide)
  exact (infer_integerLiteral h).1 (by decide) (by decide) (by decide)

/-- The same integer stays a text if it is written in base sixteen. -/
theorem infer_least_hexadecimal :
    IntegerLiteral 16 (trim "-0x8000000000000000".toList) (-2 ^ 63) ∧
      infer "-0x8000000000000000" = .string "-0x8000000000000000" := by
  have htext : trim "-0x8000000000000000".toList = '-' :: '0' :: 'x' :: "8000000000000000".toList := by
    decide
  have hword : Grouped 16 "8000000000000000".toList (8 :: List.replicate 15 0) :=
    (grouped_iff isDigitOf_hexDigit rfl).mpr ⟨"8000000000000000".toList, by decide, by decide⟩
  have hvalue : -2 ^ 63 = signed true (magnitude 16 (8 :: List.replicate 15 0)) := by decide
  have h : IntegerLiteral 16 (trim "-0x8000000000000000".toList) (-2 ^ 63) := by
    rw [htext, hvalue]
    exact .radix .minus (by decide) hword (List.cons_ne_nil _ _)
  have hn : ¬ IsRead 16 (-2 ^ 63) := fun hread => hread.2.2 (by decide) rfl
  refine ⟨h, ?_⟩
  rw [infer, h.parseLiteral?_eq, h.numberLiteral?_eq_none hn, Option.getD_none]

end Value

end ConfigTree
