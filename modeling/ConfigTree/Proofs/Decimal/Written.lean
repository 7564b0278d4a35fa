import Mathlib.Data.List.Basic
import ConfigTree.Proofs.Decimal.Nearest
import ConfigTree.Proofs.Decimal.Numeral
import ConfigTree.Value.Display

set_option relaxedAutoImplicit false
set_option autoImplicit false

/-!
# Numbers that are written and read again

A finite number is written as the shortest decimal that is read as this number, so reading the text
gives the number back. The text has a point or an exponent, whatever the number.

## Main definitions

* `ConfigTree.Decimal.Spells` — a text with a point or an exponent is a numeral for a decimal.

## Main results

* `ConfigTree.Decimal.rank_shortest` — the shortest decimal of a rank is read as this rank.
* `ConfigTree.Decimal.int?_intText` — an integer is read back.
* `ConfigTree.Decimal.exists_spells_writeRank` — what is written for a rank spells a decimal of it.
* `ConfigTree.Decimal.binary64?_write` — a finite number is read back.

## Implementation notes

The three layouts of a number have one form, `Spells`: digits, then a point with digits or nothing,
then an exponent or nothing. A text of this form is a numeral of the grammar (`Spells.floatWord`),
so what the grammar says about reading holds for all layouts.
-/

namespace ConfigTree.Decimal

open Binary64 (ranks)

/-! ## The shortest decimal -/

/-- Zeros at the end of its digits do not matter for the rank of a decimal. -/
lemma rank_strip (d : Decimal) : d.strip.rank = d.rank := by
  induction d using strip.induct with
  | case1 d h ih =>
    rw [strip, if_pos h, ih]
    have hdigits : d.digits / 10 * 10 ^ 1 = d.digits := by omega
    have hrank := rank_mul_pow (d.digits / 10) 1 d.exponent
    rw [hdigits] at hrank
    exact hrank.symm
  | case2 d h => rw [strip, if_neg h]

/-- All digits of a rank together are read as this rank. -/
lemma rank_exact {r : ℕ} (hr : r < ranks) : (exact r).rank = r := by
  obtain ⟨k, hk, hone⟩ := exists_one_eq
  have hpower : (-1074 : ℤ) = -(k : ℤ) := by omega
  have hexact : exact r = ⟨Binary64.units r * Nat.pow 5 k, -(k : ℤ)⟩ := by
    rw [exact, hpower, ← hk]
  have hnum : (-(k : ℤ)).toNat = 0 := by omega
  have hden : (-(-(k : ℤ))).toNat = k := by omega
  rw [hexact, rank_eq_nearestRank]
  simp only [hnum, hden, hone]
  calc Binary64.nearestRank (Binary64.units r * 5 ^ k * 10 ^ 0 * 2 ^ k) (10 ^ k)
      = Binary64.nearestRank (Binary64.units r) 1 := by
        refine Binary64.nearestRank_congr (by positivity) Nat.one_pos ?_
        rw [Nat.pow_zero, Nat.mul_one, Nat.mul_one, Nat.mul_assoc, ← Nat.mul_pow]
    _ = r := Binary64.nearestRank_units hr

/-- A candidate for the shortest decimal is read as the rank. -/
lemma rank_of_neighbour? {tie : Tie} {r : ℕ} {exponent : ℤ} {d : Decimal}
    (h : neighbour? tie r exponent = some d) : d.rank = r := by
  unfold neighbour? at h
  simp only at h
  split at h
  · rename_i hbelow
    split at h
    · rename_i habove
      split at h <;> (obtain rfl := Option.some.inj h)
      · exact hbelow
      · exact habove
      · exact habove
      · split
        · exact hbelow
        · exact habove
    · obtain rfl := Option.some.inj h
      exact hbelow
  · split at h
    · rename_i habove
      obtain rfl := Option.some.inj h
      exact habove
    · simp at h

/-- **The shortest decimal of a rank** is read as this rank. -/
lemma rank_shortest (tie : Tie) {r : ℕ} (hr : r < ranks) : (shortest tie r).rank = r := by
  unfold shortest
  split
  · rename_i hzero
    rw [hzero]
    rfl
  simp only [rank_strip]
  cases hfound : (List.range 17).findSome? fun more =>
      neighbour? tie r (leadingExponent r - Int.ofNat more) with
  | none => exact rank_exact hr
  | some d =>
    obtain ⟨more, -, hmore⟩ := List.exists_of_findSome?_eq_some hfound
    exact rank_of_neighbour? hmore

/-! ## Integers -/

/-- What is written for a natural number are digits. -/
lemma isDigit_toDigits (n : ℕ) : ∀ c ∈ Nat.toDigits 10 n, c.isDigit = true := fun _ hc =>
  Nat.isDigit_of_mem_toDigits (by omega) (by omega) hc

/-- What is written for a natural number is a word of digits. -/
lemma digitWord_toDigits (n : ℕ) : DigitWord (Nat.toDigits 10 n) :=
  ⟨Nat.toDigits_ne_nil, isDigit_toDigits n⟩

/-- What is written for an integer are the digits of its absolute value, with its sign. -/
lemma signed_intText (n : ℤ) :
    Signed (Nat.toDigits 10 n.natAbs) (intText n) (decide (n < 0)) := by
  unfold intText
  split
  · rename_i hneg
    rw [decide_eq_true hneg]
    exact .minus
  · rename_i hneg
    rw [decide_eq_false hneg]
    exact .plain

/-- An integer is its absolute value with its sign. -/
lemma signed_natAbs (n : ℤ) : signed (decide (n < 0)) n.natAbs = n := by
  unfold signed
  split
  · rename_i hneg
    have : n < 0 := of_decide_eq_true hneg
    omega
  · rename_i hneg
    have : ¬ n < 0 := of_decide_eq_false (Bool.eq_false_iff.mpr hneg)
    omega

/-- The digits of an integer denote it, with its sign. -/
lemma signed_toDigits (n : ℤ) :
    signed (decide (n < 0)) (Nat.ofDigitChars 10 (Nat.toDigits 10 n.natAbs) 0) = n := by
  rw [Nat.ofDigitChars_ten_toDigits, signed_natAbs]

/-- **An integer** is read back. -/
lemma int?_intText (n : ℤ) : int? (intText n) = some n :=
  int?_eq_some_iff.mpr ⟨_, _, signed_intText n, digitWord_toDigits _, (signed_toDigits n).symm⟩

/-- An integer after the letter of exponents is an exponent. -/
lemma exponent_intText (n : ℤ) : Exponent ('e' :: intText n) n := by
  have hexponent := Exponent.intro (.inl rfl) (signed_intText n) (digitWord_toDigits _)
  rwa [signed_toDigits] at hexponent

/-! ## Numerals with a point or an exponent -/

/-- The end of a numeral says which exponent it has. -/
inductive Ends : List Char → ℤ → Prop where
  /-- Nothing stands for the exponent zero. -/
  | nil : Ends [] 0
  /-- An exponent is written after a letter. -/
  | exponent (power : ℤ) : Ends ('e' :: intText power) power

/-- The text has a point or an exponent, and is a numeral for the decimal. -/
inductive Spells : List Char → Decimal → Prop where
  /-- Digits on both sides of a point, and what ends the numeral. -/
  | point {whole fraction tail : List Char} {power : ℤ} (hne : whole ≠ [])
      (hwhole : ∀ c ∈ whole, c.isDigit = true) (hfraction : ∀ c ∈ fraction, c.isDigit = true)
      (htail : Ends tail power) :
      Spells (whole ++ '.' :: (fraction ++ tail))
        ⟨Nat.ofDigitChars 10 (whole ++ fraction) 0, power - fraction.length⟩
  /-- Digits without a point, and an exponent. -/
  | scale {whole : List Char} (hne : whole ≠ []) (hwhole : ∀ c ∈ whole, c.isDigit = true)
      (power : ℤ) : Spells (whole ++ 'e' :: intText power) ⟨Nat.ofDigitChars 10 whole 0, power⟩

/-- Digits with a point among them and without an exponent are a numeral. -/
lemma Spells.of_fraction {whole fraction : List Char} (hne : whole ≠ [])
    (hwhole : ∀ c ∈ whole, c.isDigit = true) (hfraction : ∀ c ∈ fraction, c.isDigit = true) :
    Spells (whole ++ '.' :: fraction)
      ⟨Nat.ofDigitChars 10 (whole ++ fraction) 0, -fraction.length⟩ := by
  simpa using Spells.point hne hwhole hfraction .nil

namespace Spells

variable {text : List Char} {d : Decimal}

/-- **Such a numeral** is one of the grammar. -/
lemma floatWord (h : Spells text d) : FloatWord text d := by
  cases h with
  | @point whole fraction tail power hne hwhole hfraction htail =>
    have hdigits : DigitWord (whole ++ fraction) :=
      ⟨List.append_ne_nil_of_left_ne_nil hne _, List.forall_mem_append.mpr ⟨hwhole, hfraction⟩⟩
    refine .point hdigits ?_
    cases htail with
    | nil => exact .inl ⟨rfl, rfl⟩
    | exponent power => exact .inr (exponent_intText power)
  | scale hne hwhole power => exact .scale ⟨hne, hwhole⟩ (exponent_intText power)

end Spells

/-! ## The three layouts -/

/-- Zeros are digits. -/
lemma isDigit_zeros (count : ℕ) : ∀ c ∈ zeros count, c.isDigit = true := by
  intro c hc
  rw [List.eq_of_mem_replicate hc]
  rfl

/-- Zeros at the end of digits multiply their value by a power of ten. -/
lemma ofDigitChars_append_zeros (digits : List Char) (count : ℕ) :
    Nat.ofDigitChars 10 (digits ++ zeros count) 0 = Nat.ofDigitChars 10 digits 0 * 10 ^ count := by
  rw [Nat.ofDigitChars_append, zeros, Nat.ofDigitChars_replicate_zero, Nat.mul_comm]

/-- Zeros before digits do not change their value. -/
lemma ofDigitChars_zeros_append (count : ℕ) (digits : List Char) :
    Nat.ofDigitChars 10 (zeros count ++ digits) 0 = Nat.ofDigitChars 10 digits 0 := by
  rw [Nat.ofDigitChars_append, zeros, Nat.ofDigitChars_replicate_zero, Nat.mul_zero]

section Layouts

variable {digits : List Char} (hdigits : ∀ c ∈ digits, c.isDigit = true)

include hdigits

/-- The point stands after the digits and some zeros, which count as powers of ten. -/
lemma exists_spells_zeros (hne : digits ≠ []) (count : ℕ) :
    ∃ d, Spells (digits ++ zeros count ++ ['.', '0']) d ∧
      d.rank = rank ⟨Nat.ofDigitChars 10 digits 0, count⟩ := by
  have hwhole := List.forall_mem_append.mpr ⟨hdigits, isDigit_zeros count⟩
  have hspells := Spells.of_fraction (List.append_ne_nil_of_left_ne_nil hne _) hwhole
    (isDigit_zeros 1)
  refine ⟨_, hspells, ?_⟩
  have hzeros : digits ++ zeros count ++ zeros 1 = digits ++ zeros (count + 1) := by
    rw [List.append_assoc, zeros, zeros, zeros, List.replicate_append_replicate]
  have hexp : -((zeros 1).length : ℤ) + (count + 1 : ℕ) = count := by
    rw [zeros, List.length_replicate]
    omega
  rw [hzeros, ofDigitChars_append_zeros, rank_mul_pow, hexp]

/-- The point stands among the digits. -/
lemma spells_split (hne : digits ≠ []) {place : ℕ} (hplace : 0 < place) :
    Spells (digits.take place ++ '.' :: digits.drop place)
      ⟨Nat.ofDigitChars 10 digits 0, -(digits.length - place : ℕ)⟩ := by
  have htake : digits.take place ≠ [] := by
    rw [ne_eq, List.take_eq_nil_iff]
    rintro (hzero | hnil)
    · omega
    · exact hne hnil
  have hwhole : ∀ c ∈ digits.take place, c.isDigit = true := fun c hc =>
    hdigits c (List.mem_of_mem_take hc)
  have hfraction : ∀ c ∈ digits.drop place, c.isDigit = true := fun c hc =>
    hdigits c (List.mem_of_mem_drop hc)
  have hspells := Spells.of_fraction htake hwhole hfraction
  rwa [List.take_append_drop, List.length_drop] at hspells

/-- The point stands before some zeros and the digits. -/
lemma spells_fraction (count : ℕ) :
    Spells ('0' :: '.' :: zeros count ++ digits)
      ⟨Nat.ofDigitChars 10 digits 0, -(count + digits.length : ℕ)⟩ := by
  have hspells := Spells.of_fraction (List.cons_ne_nil '0' []) (isDigit_zeros 1)
    (List.forall_mem_append.mpr ⟨isDigit_zeros count, hdigits⟩)
  have hvalue : Nat.ofDigitChars 10 (['0'] ++ (zeros count ++ digits)) 0 =
      Nat.ofDigitChars 10 digits 0 :=
    (ofDigitChars_zeros_append 1 _).trans (ofDigitChars_zeros_append count digits)
  rw [hvalue, List.length_append, zeros, List.length_replicate] at hspells
  exact hspells

end Layouts

/-- A number without an exponent spells a decimal of its value. -/
lemma exists_spells_positional (n : ℕ) (exponent : ℤ) :
    ∃ d, Spells (positional ['.', '0'] (Nat.toDigits 10 n) exponent) d ∧
      d.rank = rank ⟨n, exponent⟩ := by
  have hvalue : Nat.ofDigitChars 10 (Nat.toDigits 10 n) 0 = n := Nat.ofDigitChars_ten_toDigits
  have hdigits := isDigit_toDigits n
  have hne : Nat.toDigits 10 n ≠ [] := Nat.toDigits_ne_nil
  generalize Nat.toDigits 10 n = digits at hvalue hdigits hne
  unfold positional
  simp only
  split
  · rename_i hwhole
    obtain ⟨d, hspells, hrank⟩ := exists_spells_zeros hdigits hne exponent.toNat
    rw [hvalue, Int.toNat_of_nonneg hwhole] at hrank
    exact ⟨d, hspells, hrank⟩
  · rename_i hfraction
    split
    · rename_i hpoint
      have hspells := spells_split hdigits hne (Int.pos_iff_toNat_pos.mp hpoint)
      have hexp : -((digits.length - (digits.length + exponent).toNat : ℕ) : ℤ) = exponent := by
        omega
      rw [hvalue, hexp] at hspells
      exact ⟨_, hspells, rfl⟩
    · rename_i hpoint
      have hspells := spells_fraction hdigits (-(digits.length + exponent)).toNat
      have hexp : -(((-(digits.length + exponent)).toNat + digits.length : ℕ) : ℤ) = exponent := by
        omega
      rw [hvalue, hexp] at hspells
      exact ⟨_, hspells, rfl⟩

/-- A number with an exponent spells the decimal it is made of. -/
lemma spells_scientific (n : ℕ) (exponent : ℤ) :
    Spells (scientific [] (Nat.toDigits 10 n) exponent) ⟨n, exponent⟩ := by
  have hvalue : Nat.ofDigitChars 10 (Nat.toDigits 10 n) 0 = n := Nat.ofDigitChars_ten_toDigits
  have hisDigit := isDigit_toDigits n
  have hne : Nat.toDigits 10 n ≠ [] := Nat.toDigits_ne_nil
  generalize Nat.toDigits 10 n = digits at hvalue hisDigit hne
  unfold scientific
  rw [← hvalue]
  match digits with
  | [] => exact absurd rfl hne
  | [c] =>
    have hspells := Spells.scale hne hisDigit (exponent + ([c].length : ℤ) - 1)
    have hexp : exponent + ([c].length : ℤ) - 1 = exponent := by simp
    rw [hexp] at hspells ⊢
    simpa [intText] using hspells
  | first :: second :: more =>
    have hwhole : ∀ c ∈ [first], c.isDigit = true := fun c hc =>
      hisDigit c (List.mem_singleton.mp hc ▸ List.mem_cons_self)
    have hfraction : ∀ c ∈ second :: more, c.isDigit = true := fun c hc =>
      hisDigit c (List.mem_cons_of_mem _ hc)
    have hspells := Spells.point (List.cons_ne_nil _ _) hwhole hfraction
      (.exponent (exponent + ((first :: second :: more).length : ℤ) - 1))
    have hexp : exponent + ((first :: second :: more).length : ℤ) - 1 -
        ((second :: more).length : ℤ) = exponent := by
      simp only [List.length_cons]
      omega
    rw [hexp] at hspells
    simpa [intText] using hspells

/-- **What is written for a rank** in a literal spells a decimal of this rank. -/
lemma exists_spells_writeRank {r : ℕ} (hr : r < ranks) :
    ∃ d, Spells (Value.literalStyle.writeRank r) d ∧ d.rank = r := by
  have hrank : (shortest .up r).rank = r := rank_shortest .up hr
  unfold Style.writeRank
  simp only
  split
  · obtain ⟨d, hspells, hd⟩ :=
      exists_spells_positional (shortest .up r).digits (shortest .up r).exponent
    exact ⟨d, hspells, hd.trans hrank⟩
  · exact ⟨_, spells_scientific (shortest .up r).digits (shortest .up r).exponent, hrank⟩

/-- What is written for a finite number is what is written for its rank, with its sign. -/
lemma signed_write (negative : Bool) (r : Fin ranks) :
    Signed (Value.literalStyle.writeRank r) (Value.literalStyle.write (.finite negative r))
      negative := by
  cases negative with
  | false => exact .plain
  | true => exact .minus

/-- The rank of a finite number gives this number back. -/
lemma ofRank_eq (negative : Bool) (r : Fin ranks) :
    Binary64.ofRank negative r = .finite negative r := by
  rw [Binary64.ofRank, dif_pos r.isLt]

/-- **A finite number** is read back from its literal. -/
lemma binary64?_write (negative : Bool) (r : Fin ranks) :
    binary64? (Value.literalStyle.write (.finite negative r)) = some (.finite negative r) := by
  obtain ⟨d, hspells, hd⟩ := exists_spells_writeRank r.isLt
  rw [binary64?_of_signed (signed_write negative r) hspells.floatWord, hd, ofRank_eq]

end ConfigTree.Decimal
