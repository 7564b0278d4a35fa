import Mathlib.Data.Bool.AllAny
import Mathlib.Data.Nat.Digits.Defs
import ConfigTree.Proofs.Decimal.Numeral
import ConfigTree.Proofs.Runs
import ConfigTree.Value.Literal

set_option relaxedAutoImplicit false
set_option autoImplicit false

/-!
# The grammar of number literals

There are three kinds of number literals, all with an optional sign: integers in decimal digits,
integers in another base after a zero and a letter, and floating-point numbers with a point or an
exponent. No text is a literal of two kinds, and the readers of number literals accept exactly these
texts.

## Main definitions

* `ConfigTree.Value.Grouped` — digits in a base, with underscores between them.
* `ConfigTree.Value.Number` — the number literals and the values that they denote.
* `ConfigTree.Value.IsNumberChar` — the characters of number literals.

## Main results

* `ConfigTree.Value.grouped_iff` — a grouped word is one whose digits remain without underscores.
* `ConfigTree.Value.decimalLiteral?_eq_some_iff`, `ConfigTree.Value.radixLiteral?_eq_some_iff`,
  `ConfigTree.Value.floatLiteral?_eq_some_iff` — the literals of each kind.
* `ConfigTree.Value.numberLiteral?_eq_some_iff` — the number literals.
-/

namespace ConfigTree.Value

open Decimal

/-! ## The grammar -/

/-- The character stands for the digit `d` of a base. -/
def IsDigitOf (base : ℕ) (c : Char) (d : ℕ) : Prop :=
  hexDigit? c = some d ∧ d < base

/-- Whether a character stands for a digit can be decided. -/
instance (base : ℕ) (c : Char) (d : ℕ) : Decidable (IsDigitOf base c d) :=
  inferInstanceAs (Decidable (_ ∧ _))

/-- The word spells the digits in a base, and a single underscore may stand before each of them. -/
inductive Grouped (base : ℕ) : List Char → List ℕ → Prop where
  /-- There are no digits. -/
  | nil : Grouped base [] []
  /-- A digit, and more of them. -/
  | digit {c : Char} {d : ℕ} {word : List Char} {digits : List ℕ} (hc : IsDigitOf base c d)
      (hword : Grouped base word digits) : Grouped base (c :: word) (d :: digits)
  /-- A digit after an underscore, and more of them. -/
  | underscore {c : Char} {d : ℕ} {word : List Char} {digits : List ℕ} (hc : IsDigitOf base c d)
      (hword : Grouped base word digits) : Grouped base ('_' :: c :: word) (d :: digits)

/-- The number with the given digits, the first one being the most significant. -/
def magnitude (base : ℕ) (digits : List ℕ) : ℕ :=
  Nat.ofDigits base digits.reverse

/-- The text is a number literal, and the value is the one that it denotes. -/
inductive Number : List Char → Value → Prop where
  /-- An integer of 64 bits in decimal digits, the first of which is no zero unless all are. -/
  | decimal {text rest : List Char} {first : Char} {negative : Bool} {d : ℕ} {digits : List ℕ}
      (hsign : Signed (first :: rest) text negative) (hfirst : IsDigitOf 10 first d)
      (hrest : Grouped 10 rest digits) (hzero : d = 0 → ∀ e ∈ digits, e = 0)
      (hlo : -Int.pow 2 63 ≤ signed negative (magnitude 10 (d :: digits)))
      (hhi : signed negative (magnitude 10 (d :: digits)) < Int.pow 2 63) :
      Number text (.integer (Int64.ofInt (signed negative (magnitude 10 (d :: digits)))))
  /-- An integer in the base that a letter after a zero stands for, with an absolute value of at most
  63 bits. -/
  | radix {text word : List Char} {letter : Char} {negative : Bool} {base : ℕ} {digits : List ℕ}
      (hsign : Signed ('0' :: letter :: word) text negative) (hbase : base? letter = some base)
      (hword : Grouped base word digits) (hne : digits ≠ [])
      (hrange : magnitude base digits < Nat.pow 2 63) :
      Number text (.integer (Int64.ofInt (signed negative (magnitude base digits))))
  /-- A floating-point number, which is rounded to the nearest one. -/
  | float {text word : List Char} {negative : Bool} {decimal : Decimal}
      (hsign : Signed word text negative) (hword : FloatWord word decimal) :
      Number text (.float (Binary64.ofRank negative decimal.rank))

/-! ## Digits -/

/-- The digits of base ten are the decimal digits, with their distance from zero as their value. -/
lemma isDigitOf_ten_iff {c : Char} {d : ℕ} :
    IsDigitOf 10 c d ↔ c.isDigit = true ∧ d = c.toNat - '0'.toNat := by
  unfold IsDigitOf hexDigit?
  constructor
  · rintro ⟨hc, hd⟩
    split at hc
    · rename_i hdigit
      exact ⟨hdigit, (Option.some.inj hc).symm⟩
    · split at hc
      · have := Option.some.inj hc
        omega
      · split at hc
        · have := Option.some.inj hc
          omega
        · simp at hc
  · rintro ⟨hdigit, rfl⟩
    have hle : c.toNat ≤ 57 := (Char.isDigit_iff_toNat.mp hdigit).2
    have hzero : '0'.toNat = 48 := rfl
    exact ⟨if_pos hdigit, by omega⟩

/-- **A grouped word** is one from which a reader takes the underscores, with digits of the base
left.

**Proof sketch.** From left to right by induction on the grouped word, and from right to left along
the reader. No underscore is a digit, so there is only one way to read each of them. -/
lemma grouped_iff {base : ℕ} {isDigit : Char → Bool} {word : List Char} {digits : List ℕ}
    (hdigit : ∀ c d, IsDigitOf base c d → isDigit c = true) (hunderscore : isDigit '_' = false) :
    Grouped base word digits ↔
      ∃ found, ungroup? isDigit word = some found ∧ List.Forall₂ (IsDigitOf base) found digits := by
  constructor
  · intro h
    induction h with
    | nil => exact ⟨[], rfl, .nil⟩
    | @digit c d word digits hc _ ih =>
      obtain ⟨found, hfound, hdigits⟩ := ih
      have hne : c ≠ '_' := by
        rintro rfl
        simp [hdigit _ _ hc] at hunderscore
      refine ⟨c :: found, ?_, .cons hc hdigits⟩
      rw [ungroup?, if_pos (hdigit c d hc), hfound, Option.map_some]
      exact fun _ _ heq => absurd heq hne
    | @underscore c d word digits hc _ ih =>
      obtain ⟨found, hfound, hdigits⟩ := ih
      refine ⟨c :: found, ?_, .cons hc hdigits⟩
      rw [ungroup?, if_pos (hdigit c d hc), hfound, Option.map_some]
  · rintro ⟨found, hfound, hdigits⟩
    induction word using ungroup?.induct isDigit generalizing found digits with
    | case1 =>
      obtain rfl := Option.some.inj hfound
      cases hdigits
      exact .nil
    | case2 c rest hc ih =>
      rw [ungroup?, if_pos hc] at hfound
      obtain ⟨more, hmore, rfl⟩ := Option.map_eq_some_iff.mp hfound
      cases hdigits with
      | cons hd hrest => exact .underscore hd (ih more hmore hrest)
    | case3 c rest hc => simp [ungroup?, hc] at hfound
    | case4 c rest hform hc ih =>
      rw [ungroup?, if_pos hc] at hfound
      · obtain ⟨more, hmore, rfl⟩ := Option.map_eq_some_iff.mp hfound
        cases hdigits with
        | cons hd hrest => exact .digit hd (ih more hmore hrest)
      · exact hform
    | case5 c rest hform hc =>
      rw [ungroup?, if_neg hc] at hfound
      · simp at hfound
      · exact hform

/-- Without its underscores, a word has only digits. -/
lemma isDigit_of_ungroup? {isDigit : Char → Bool} {word found : List Char}
    (h : ungroup? isDigit word = some found) : ∀ c ∈ found, isDigit c = true := by
  induction word using ungroup?.induct isDigit generalizing found with
  | case1 =>
    obtain rfl := Option.some.inj h
    simp
  | case2 c rest hc ih =>
    rw [ungroup?, if_pos hc] at h
    obtain ⟨more, hmore, rfl⟩ := Option.map_eq_some_iff.mp h
    exact List.forall_mem_cons.mpr ⟨hc, ih hmore⟩
  | case3 c rest hc => simp [ungroup?, hc] at h
  | case4 c rest hform hc ih =>
    rw [ungroup?, if_pos hc] at h
    · obtain ⟨more, hmore, rfl⟩ := Option.map_eq_some_iff.mp h
      exact List.forall_mem_cons.mpr ⟨hc, ih hmore⟩
    · exact hform
  | case5 c rest hform hc =>
    rw [ungroup?, if_neg hc] at h
    · simp at h
    · exact hform

/-- The magnitude of digits, computed from the first one on. -/
lemma magnitude_eq_foldl (base : ℕ) (digits : List ℕ) :
    magnitude base digits = digits.foldl (fun n d => base * n + d) 0 := by
  have hstep : (fun (n d : ℕ) => (d : ℕ) + base * n) = fun n d => base * n + d := by
    funext n d
    exact Nat.add_comm _ _
  rw [magnitude, Nat.ofDigits_eq_foldr, List.foldr_reverse]
  exact congrArg (fun f => List.foldl f 0 digits) hstep

/-- Decimal digits denote their magnitude. -/
lemma ofDigitChars_eq_magnitude {found : List Char} {digits : List ℕ}
    (h : List.Forall₂ (IsDigitOf 10) found digits) :
    Nat.ofDigitChars 10 found 0 = magnitude 10 digits := by
  rw [magnitude_eq_foldl]
  generalize 0 = n
  induction h generalizing n with
  | nil => rfl
  | cons hc _ ih =>
    obtain ⟨-, rfl⟩ := isDigitOf_ten_iff.mp hc
    rw [Nat.ofDigitChars_cons, ih, List.foldl_cons]

/-- Characters denote a number in a base exactly if they are digits with this magnitude. -/
lemma natInBase?_eq_some_iff {base n : ℕ} {found : List Char} :
    natInBase? base found = some n ↔
      ∃ digits, List.Forall₂ (IsDigitOf base) found digits ∧ n = magnitude base digits := by
  simp only [magnitude_eq_foldl]
  unfold natInBase?
  generalize 0 = m
  induction found generalizing m with
  | nil =>
    rw [List.foldlM_nil]
    constructor
    · intro h
      exact ⟨[], .nil, (Option.some.inj h).symm⟩
    · rintro ⟨digits, hdigits, rfl⟩
      cases hdigits
      rfl
  | cons c rest ih =>
    rw [List.foldlM_cons]
    constructor
    · intro h
      obtain ⟨m', hm', hrest⟩ := Option.bind_eq_some_iff.mp h
      obtain ⟨d, hd, hm'⟩ := Option.bind_eq_some_iff.mp hm'
      split at hm'
      · rename_i hlt
        obtain rfl := Option.some.inj hm'
        obtain ⟨digits, hdigits, rfl⟩ := (ih _).mp hrest
        refine ⟨d :: digits, .cons ⟨hd, hlt⟩ hdigits, ?_⟩
        rw [List.foldl_cons, Nat.mul_comm]
      · simp at hm'
    · rintro ⟨digits, hdigits, rfl⟩
      cases hdigits with
      | @cons _ d _ digits hc hdigits =>
        refine Option.bind_eq_some_iff.mpr ⟨m * base + d, ?_, (ih _).mpr ⟨digits, hdigits, ?_⟩⟩
        · rw [hc.1, Option.bind_some, if_pos hc.2]
        · rw [List.foldl_cons, Nat.mul_comm]

/-! ## Integers -/

/-- A digit of any base is a hexadecimal digit. -/
lemma isDigitOf_hexDigit {base : ℕ} (c : Char) (d : ℕ) (h : IsDigitOf base c d) :
    (hexDigit? c).isSome = true := by
  rw [h.1]
  rfl

/-- Decimal digits have values. -/
lemma exists_digits {found : List Char} (h : ∀ c ∈ found, c.isDigit = true) :
    ∃ digits, List.Forall₂ (IsDigitOf 10) found digits := by
  induction found with
  | nil => exact ⟨[], .nil⟩
  | cons c rest ih =>
    obtain ⟨hc, hrest⟩ := List.forall_mem_cons.mp h
    obtain ⟨digits, hdigits⟩ := ih hrest
    exact ⟨_, .cons (isDigitOf_ten_iff.mpr ⟨hc, rfl⟩) hdigits⟩

/-- The only digit of value zero is the zero. -/
lemma isDigitOf_zero_iff {c : Char} {d : ℕ} (h : IsDigitOf 10 c d) : c = '0' ↔ d = 0 := by
  obtain ⟨hdigit, rfl⟩ := isDigitOf_ten_iff.mp h
  constructor
  · rintro rfl
    rfl
  · intro hzero
    have hle : 48 ≤ c.toNat := (Char.isDigit_iff_toNat.mp hdigit).1
    have hcode : '0'.toNat = 48 := rfl
    exact Char.toNat_inj.mp (by omega)

/-- Whether digits have a leading zero shows in their values. -/
lemma isPlain_iff {first : Char} {found : List Char} {d : ℕ} {digits : List ℕ}
    (hfirst : IsDigitOf 10 first d) (hfound : List.Forall₂ (IsDigitOf 10) found digits) :
    isPlain (first :: found) = true ↔ (d = 0 → ∀ e ∈ digits, e = 0) := by
  have hall : (∀ c ∈ found, c = '0') ↔ ∀ e ∈ digits, e = 0 := by
    obtain ⟨hleft, hright⟩ := exists_of_forall₂ hfound
    constructor
    · intro h e he
      obtain ⟨c, hc, hdigit⟩ := hright e he
      exact (isDigitOf_zero_iff hdigit).mp (h c hc)
    · intro h c hc
      obtain ⟨e, he, hdigit⟩ := hleft c hc
      exact (isDigitOf_zero_iff hdigit).mpr (h e he)
  rw [← hall, ← isDigitOf_zero_iff hfirst]
  by_cases hzero : first = '0' <;> simp [isPlain, hzero]

/-- A word of grouped decimal digits is a word of digits without its underscores. -/
lemma grouped_ten_iff {word : List Char} {digits : List ℕ} :
    Grouped 10 word digits ↔
      ∃ found, ungroup? Char.isDigit word = some found ∧ List.Forall₂ (IsDigitOf 10) found digits :=
  grouped_iff (fun _ _ h => (isDigitOf_ten_iff.mp h).1) rfl

/-- A digit at the start of a word stays. -/
lemma ungroup?_cons {first : Char} (hfirst : first.isDigit = true) (rest : List Char) :
    ungroup? Char.isDigit (first :: rest) = (ungroup? Char.isDigit rest).map (first :: ·) := by
  rw [ungroup?, if_pos hfirst]
  rintro _ _ rfl
  exact absurd hfirst (by decide)

/-- **Integer literals in decimal digits.** -/
lemma decimalLiteral?_eq_some_iff {text : List Char} {n : ℤ} :
    decimalLiteral? text = some n ↔ ∃ first rest negative d digits,
      Signed (first :: rest) text negative ∧ IsDigitOf 10 first d ∧ Grouped 10 rest digits ∧
        (d = 0 → ∀ e ∈ digits, e = 0) ∧ n = signed negative (magnitude 10 (d :: digits)) := by
  constructor
  · intro h
    have hsign := signed_splitSign text
    simp only [decimalLiteral?] at h
    generalize (splitSign text).1 = negative at h hsign
    generalize (splitSign text).2 = word at h hsign
    split at h
    · rename_i hhead
      cases word with
      | nil => simp at hhead
      | cons first rest =>
        have hfirst : first.isDigit = true := hhead
        rw [ungroup?_cons hfirst] at h
        cases hfound : ungroup? Char.isDigit rest with
        | none => simp [hfound] at h
        | some found =>
          obtain ⟨digits, hdigits⟩ := exists_digits (isDigit_of_ungroup? hfound)
          have hd : IsDigitOf 10 first (first.toNat - '0'.toNat) :=
            isDigitOf_ten_iff.mpr ⟨hfirst, rfl⟩
          simp only [hfound, Option.map_some] at h
          split at h
          · rename_i hplain
            obtain rfl := Option.some.inj h
            refine ⟨first, rest, negative, _, digits, hsign, hd,
              grouped_ten_iff.mpr ⟨found, hfound, hdigits⟩, (isPlain_iff hd hdigits).mp hplain, ?_⟩
            rw [ofDigitChars_eq_magnitude (.cons hd hdigits)]
          · simp at h
    · simp at h
  · rintro ⟨first, rest, negative, d, digits, hsign, hd, hrest, hzero, rfl⟩
    have hfirst := (isDigitOf_ten_iff.mp hd).1
    have hhead : (first :: rest).head?.any Char.isDigit = true := hfirst
    obtain ⟨found, hfound, hdigits⟩ := grouped_ten_iff.mp hrest
    simp only [decimalLiteral?, hsign.splitSign_eq (head?_ne_of_isDigit hhead), hhead, if_true,
      ungroup?_cons hfirst, hfound, Option.map_some, (isPlain_iff hd hdigits).mpr hzero,
      ofDigitChars_eq_magnitude (.cons hd hdigits)]

/-- **Integer literals in another base.** -/
lemma radixLiteral?_eq_some_iff {text : List Char} {negative : Bool} {n : ℕ} :
    radixLiteral? text = some (negative, n) ↔ ∃ letter word base digits,
      Signed ('0' :: letter :: word) text negative ∧ base? letter = some base ∧
        Grouped base word digits ∧ digits ≠ [] ∧ n = magnitude base digits := by
  have hgrouped {base : ℕ} {word : List Char} {digits : List ℕ} : Grouped base word digits ↔
      ∃ found, ungroup? (fun c => (hexDigit? c).isSome) word = some found ∧
        List.Forall₂ (IsDigitOf base) found digits :=
    grouped_iff isDigitOf_hexDigit rfl
  constructor
  · intro h
    have hsign := signed_splitSign text
    simp only [radixLiteral?] at h
    generalize (splitSign text).1 = sign at h hsign
    generalize (splitSign text).2 = word at h hsign
    split at h
    · rename_i letter first rest
      obtain ⟨base, hbase, h⟩ := Option.bind_eq_some_iff.mp h
      obtain ⟨found, hfound, h⟩ := Option.bind_eq_some_iff.mp h
      obtain ⟨m, hm, h⟩ := Option.bind_eq_some_iff.mp h
      obtain ⟨rfl, rfl⟩ := Prod.mk.inj (Option.some.inj h)
      obtain ⟨digits, hdigits, rfl⟩ := natInBase?_eq_some_iff.mp hm
      have hword := hgrouped.mpr ⟨found, hfound, hdigits⟩
      refine ⟨letter, first :: rest, base, digits, hsign, hbase, hword, ?_, rfl⟩
      rintro rfl
      cases hword
    · simp at h
  · rintro ⟨letter, word, base, digits, hsign, hbase, hword, hne, rfl⟩
    obtain ⟨found, hfound, hdigits⟩ := hgrouped.mp hword
    have hm := natInBase?_eq_some_iff.mpr ⟨digits, hdigits, rfl⟩
    obtain ⟨first, rest, rfl⟩ : ∃ first rest, word = first :: rest := by
      cases hword with
      | nil => exact absurd rfl hne
      | digit => exact ⟨_, _, rfl⟩
      | underscore => exact ⟨_, _, rfl⟩
    simp only [radixLiteral?, hsign.splitSign_eq (by simp), hbase, hfound, hm, bind,
      Option.bind_some]
    rfl

/-! ## Floating-point numbers -/

/-- **Floating-point literals.** -/
lemma floatLiteral?_eq_some_iff {text : List Char} {x : Binary64} :
    floatLiteral? text = some x ↔ ∃ word negative decimal, Signed word text negative ∧
      FloatWord word decimal ∧ x = Binary64.ofRank negative decimal.rank := by
  constructor
  · intro h
    unfold floatLiteral? at h
    split at h
    · rename_i hmark
      have hsign := signed_splitSign text
      simp only [binary64?] at h
      generalize (splitSign text).1 = negative at h hsign
      generalize (splitSign text).2 = word at h hsign
      obtain ⟨decimal, hdecimal, rfl⟩ := Option.map_eq_some_iff.mp h
      rcases numeral?_eq_some_iff.mp hdecimal with hword | ⟨hdigits, -⟩
      · exact ⟨word, negative, decimal, hsign, hword, rfl⟩
      · -- Digits alone have no mark of a floating-point number.
        obtain ⟨c, hc, hcases⟩ := List.any_eq_true.mp hmark
        have hnone : ∀ c ∈ ['.', 'e', 'E'], c.isDigit = false ∧ c ≠ '+' ∧ c ≠ '-' :=
          List.all_iff_forall_prop.mp (by decide)
        obtain ⟨hdigit, hplus, hminus⟩ := hnone c (by simpa [or_assoc] using hcases)
        rcases hsign.mem_cases hc with hc | rfl | rfl
        · simp [hdigits.2 c hc] at hdigit
        · exact absurd rfl hplus
        · exact absurd rfl hminus
    · simp at h
  · rintro ⟨word, negative, decimal, hsign, hword, rfl⟩
    obtain ⟨c, hc, hmark⟩ := hword.exists_mark
    rw [floatLiteral?, if_pos, binary64?_of_signed hsign hword]
    exact List.any_eq_true.mpr ⟨c, hsign.mem hc, by simpa [or_assoc] using hmark⟩

/-! ## All number literals -/

/-- A word of grouped digits has no other characters than digits and underscores. -/
lemma Grouped.mem_cases {base : ℕ} {word : List Char} {digits : List ℕ}
    (h : Grouped base word digits) {c : Char} (hc : c ∈ word) :
    c = '_' ∨ ∃ d, IsDigitOf base c d := by
  induction h with
  | nil => simp at hc
  | digit hd _ ih =>
    rcases List.mem_cons.mp hc with rfl | hc
    · exact .inr ⟨_, hd⟩
    · exact ih hc
  | underscore hd _ ih =>
    rcases List.mem_cons.mp hc with rfl | hc
    · exact .inl rfl
    rcases List.mem_cons.mp hc with rfl | hc
    · exact .inr ⟨_, hd⟩
    · exact ih hc

/-- An integer literal in decimal digits has no other characters than digits and underscores. -/
lemma mem_cases_of_decimalLiteral? {word text : List Char} {negative : Bool} {n : ℤ}
    (hsign : Signed word text negative) (hhead : word.head? ≠ some '+' ∧ word.head? ≠ some '-')
    (h : decimalLiteral? text = some n) : ∀ c ∈ word, c = '_' ∨ c.isDigit = true := by
  obtain ⟨first, rest, negative', d, digits, hsign', hfirst, hrest, -, -⟩ :=
    decimalLiteral?_eq_some_iff.mp h
  have hdigit := (isDigitOf_ten_iff.mp hfirst).1
  obtain rfl := hsign.eq_of_head? hsign' hhead (head?_ne_of_isDigit hdigit)
  intro c hc
  rcases List.mem_cons.mp hc with rfl | hc
  · exact .inr hdigit
  · exact (hrest.mem_cases hc).imp_right fun ⟨_, hd⟩ => (isDigitOf_ten_iff.mp hd).1

/-- A text with any other character is no integer literal in decimal digits. -/
lemma decimalLiteral?_eq_none {word text : List Char} {negative : Bool} {c : Char}
    (hsign : Signed word text negative) (hhead : word.head? ≠ some '+' ∧ word.head? ≠ some '-')
    (hc : c ∈ word) (hother : ¬ (c = '_' ∨ c.isDigit = true)) : decimalLiteral? text = none := by
  rw [Option.eq_none_iff_forall_ne_some]
  exact fun n hn => hother (mem_cases_of_decimalLiteral? hsign hhead hn c hc)

/-- The letters that stand for a base. -/
lemma base?_letter {letter : Char} {base : ℕ} (h : base? letter = some base) :
    letter ∈ ['x', 'X', 'o', 'O', 'b', 'B'] := by
  unfold base? at h
  split at h
  · rename_i hletter
    rcases hletter with rfl | rfl <;> simp
  split at h
  · rename_i hletter
    rcases hletter with rfl | rfl <;> simp
  split at h
  · rename_i hletter
    rcases hletter with rfl | rfl <;> simp
  · simp at h

/-- A numeral with a point or an exponent has no letter for a base. -/
lemma radixLiteral?_eq_none {word text : List Char} {negative : Bool} {decimal : Decimal}
    (hsign : Signed word text negative) (hword : FloatWord word decimal) :
    radixLiteral? text = none := by
  rw [Option.eq_none_iff_forall_ne_some]
  rintro ⟨negative', n⟩ hn
  obtain ⟨letter, rest, base, digits, hsign', hbase, -, -, -⟩ := radixLiteral?_eq_some_iff.mp hn
  obtain rfl := hsign.eq_of_head? hsign' hword.head?_ne (by simp)
  have hnone : ∀ c ∈ ['x', 'X', 'o', 'O', 'b', 'B'],
      ¬ (c.isDigit = true ∨ c ∈ ['.', 'e', 'E', '+', '-']) :=
    List.all_iff_forall_prop.mp (by decide)
  exact hnone letter (base?_letter hbase) (hword.mem_cases (by simp))

/-- An integer has a word of 64 bits exactly if it is in range. -/
lemma int64?_eq_some_iff {n : ℤ} {m : Int64} :
    int64? n = some m ↔ (-Int.pow 2 63 ≤ n ∧ n < Int.pow 2 63) ∧ m = Int64.ofInt n := by
  unfold int64?
  split
  · rename_i h
    rw [Option.some.injEq]
    exact ⟨fun heq => ⟨h, heq.symm⟩, fun heq => heq.2.symm⟩
  · rename_i h
    exact ⟨fun heq => by simp at heq, fun heq => absurd heq.1 h⟩

/-- Changing the sign of a word of 64 bits. -/
lemma ofInt_signed (negative : Bool) (n : ℕ) :
    (if negative then -Int64.ofInt n else Int64.ofInt n) = Int64.ofInt (signed negative n) := by
  cases negative with
  | false => rfl
  | true => exact (Int64.ofInt_neg n).symm

/-- An integer literal in decimal digits is read as the integer, if this has 64 bits. -/
lemma numberLiteral?_of_decimal {text : List Char} {n : ℤ} (h : decimalLiteral? text = some n) :
    numberLiteral? text = (int64? n).map .integer := by
  rw [numberLiteral?, h]

/-- An integer literal in another base is read by its absolute value, if this has 64 bits; the sign
is put to it afterwards.

**Proof sketch.** The letter for the base is no decimal digit, so that the text is not taken for an
integer in decimal digits first. -/
lemma numberLiteral?_of_radix {text word : List Char} {letter : Char} {negative : Bool} {base : ℕ}
    {digits : List ℕ} (hsign : Signed ('0' :: letter :: word) text negative)
    (hbase : base? letter = some base) (hword : Grouped base word digits) (hne : digits ≠ []) :
    numberLiteral? text = (int64? (magnitude base digits)).map fun m =>
      .integer (if negative then -m else m) := by
  have hletter : ∀ c ∈ ['x', 'X', 'o', 'O', 'b', 'B'], ¬ (c = '_' ∨ c.isDigit = true) :=
    List.all_iff_forall_prop.mp (by decide)
  have hdecimal : decimalLiteral? text = none :=
    decimalLiteral?_eq_none hsign (by simp) (by simp) (hletter letter (base?_letter hbase))
  have hradix := radixLiteral?_eq_some_iff.mpr
    ⟨letter, word, base, digits, hsign, hbase, hword, hne, rfl⟩
  simp only [numberLiteral?, hdecimal, hradix]

/-- What is read as a number is a number literal of the grammar. -/
lemma number_of_numberLiteral? {text : List Char} {value : Value}
    (h : numberLiteral? text = some value) : Number text value := by
  unfold numberLiteral? at h
  split at h
  · rename_i n hn
    obtain ⟨m, hm, rfl⟩ := Option.map_eq_some_iff.mp h
    obtain ⟨⟨hlo, hhi⟩, rfl⟩ := int64?_eq_some_iff.mp hm
    obtain ⟨first, rest, negative, d, digits, hsign, hfirst, hrest, hzero, rfl⟩ :=
      decimalLiteral?_eq_some_iff.mp hn
    exact .decimal hsign hfirst hrest hzero hlo hhi
  split at h
  · rename_i negative n hn
    obtain ⟨m, hm, rfl⟩ := Option.map_eq_some_iff.mp h
    obtain ⟨hrange, rfl⟩ := int64?_eq_some_iff.mp hm
    obtain ⟨letter, word, base, digits, hsign, hbase, hword, hne, rfl⟩ :=
      radixLiteral?_eq_some_iff.mp hn
    rw [ofInt_signed]
    exact .radix hsign hbase hword hne (Int.ofNat_lt.mp hrange.2)
  · obtain ⟨x, hx, rfl⟩ := Option.map_eq_some_iff.mp h
    obtain ⟨word, negative, decimal, hsign, hword, rfl⟩ := floatLiteral?_eq_some_iff.mp hx
    exact .float hsign hword

/-- A number literal of the grammar is read as a number.

**Proof sketch.** The readers are tried one after the other, and no literal of a later kind is one of
an earlier kind: it has a letter or a point, where earlier ones have digits. -/
lemma Number.numberLiteral?_eq {text : List Char} {value : Value} (h : Number text value) :
    numberLiteral? text = some value := by
  cases h with
  | @decimal rest first negative d digits hsign hfirst hrest hzero hlo hhi =>
    have hdecimal := decimalLiteral?_eq_some_iff.mpr
      ⟨first, rest, negative, d, digits, hsign, hfirst, hrest, hzero, rfl⟩
    rw [numberLiteral?_of_decimal hdecimal, int64?_eq_some_iff.mpr ⟨⟨hlo, hhi⟩, rfl⟩, Option.map_some]
  | @radix word letter negative base digits hsign hbase hword hne hrange =>
    have hlo : -Int.pow 2 63 ≤ (magnitude base digits : ℤ) := by
      have hpow : (0 : ℤ) ≤ Int.pow 2 63 := by decide
      omega
    have hint : int64? (magnitude base digits) = some (Int64.ofInt (magnitude base digits)) :=
      int64?_eq_some_iff.mpr ⟨⟨hlo, Int.ofNat_lt.mpr hrange⟩, rfl⟩
    rw [numberLiteral?_of_radix hsign hbase hword hne, hint, Option.map_some, ofInt_signed]
  | @float word negative decimal hsign hword =>
    obtain ⟨mark, hmark, hcases⟩ := hword.exists_mark
    have hother : ∀ c ∈ ['.', 'e', 'E'], ¬ (c = '_' ∨ c.isDigit = true) :=
      List.all_iff_forall_prop.mp (by decide)
    have hdecimal : decimalLiteral? text = none :=
      decimalLiteral?_eq_none hsign hword.head?_ne hmark (hother mark hcases)
    have hfloat := floatLiteral?_eq_some_iff.mpr ⟨word, negative, decimal, hsign, hword, rfl⟩
    simp only [numberLiteral?, hdecimal, radixLiteral?_eq_none hsign hword, hfloat, Option.map_some]

/-- **The number literals** are those of the grammar. -/
lemma numberLiteral?_eq_some_iff {text : List Char} {value : Value} :
    numberLiteral? text = some value ↔ Number text value :=
  ⟨number_of_numberLiteral?, Number.numberLiteral?_eq⟩

/-! ## The characters of number literals -/

/-- The character can stand in a number literal. -/
def IsNumberChar (c : Char) : Prop :=
  (hexDigit? c).isSome = true ∨ (base? c).isSome = true ∨ c ∈ ['.', '_', '+', '-']

/-- Whether a character can stand in a number literal can be decided. -/
instance : DecidablePred IsNumberChar := fun _ => inferInstanceAs (Decidable (_ ∨ _ ∨ _))

/-- A decimal digit can stand in a number literal. -/
lemma isNumberChar_of_isDigit {c : Char} (hc : c.isDigit = true) : IsNumberChar c := by
  refine .inl ?_
  rw [hexDigit?, if_pos hc]
  rfl

/-- Each of these characters is visible. -/
lemma IsNumberChar.visible {c : Char} (h : IsNumberChar c) : 33 ≤ c.toNat ∧ c.toNat < 127 := by
  have hbetween (lo hi : Char) (hlo : 33 ≤ lo.toNat) (hhi : hi.toNat < 127)
      (hle : lo.toNat ≤ c.toNat ∧ c.toNat ≤ hi.toNat) : 33 ≤ c.toNat ∧ c.toNat < 127 :=
    ⟨hlo.trans hle.1, hle.2.trans_lt hhi⟩
  rcases h with h | h | h
  · unfold hexDigit? at h
    split at h
    · rename_i hdigit
      exact hbetween '0' '9' (by decide) (by decide) (Char.isDigit_iff_toNat.mp hdigit)
    split at h
    · rename_i hletter
      exact hbetween 'a' 'f' (by decide) (by decide) hletter
    split at h
    · rename_i hletter
      exact hbetween 'A' 'F' (by decide) (by decide) hletter
    · simp at h
  · obtain ⟨base, hbase⟩ := Option.isSome_iff_exists.mp h
    have hletter : ∀ c ∈ ['x', 'X', 'o', 'O', 'b', 'B'], 33 ≤ c.toNat ∧ c.toNat < 127 :=
      List.all_iff_forall_prop.mp (by decide)
    exact hletter c (base?_letter hbase)
  · have hmark : ∀ c ∈ ['.', '_', '+', '-'], 33 ≤ c.toNat ∧ c.toNat < 127 :=
      List.all_iff_forall_prop.mp (by decide)
    exact hmark c h

/-- The characters of grouped digits can stand in a number literal. -/
lemma Grouped.isNumberChar {base : ℕ} {word : List Char} {digits : List ℕ}
    (h : Grouped base word digits) : ∀ c ∈ word, IsNumberChar c := by
  intro c hc
  rcases h.mem_cases hc with rfl | ⟨d, hd⟩
  · exact .inr (.inr (by simp))
  · exact .inl (isDigitOf_hexDigit c d hd)

/-- The characters of a numeral with a point or an exponent can stand in a number literal. -/
lemma isNumberChar_of_floatWord {word : List Char} {decimal : Decimal}
    (h : FloatWord word decimal) : ∀ c ∈ word, IsNumberChar c := by
  intro c hc
  rcases h.mem_cases hc with hc | hc
  · exact isNumberChar_of_isDigit hc
  · simp only [List.mem_cons, List.not_mem_nil, or_false] at hc
    rcases hc with rfl | rfl | rfl | rfl | rfl
    · exact .inr (.inr (by simp))
    · exact .inl rfl
    · exact .inl rfl
    · exact .inr (.inr (by simp))
    · exact .inr (.inr (by simp))

/-- So can a sign before a word of such characters. -/
lemma isNumberChar_of_signed {word text : List Char} {negative : Bool}
    (h : Signed word text negative) (hword : ∀ c ∈ word, IsNumberChar c) : ∀ c ∈ text, IsNumberChar c := by
  intro c hc
  rcases h.mem_cases hc with hc | rfl | rfl
  · exact hword c hc
  · exact .inr (.inr (by simp))
  · exact .inr (.inr (by simp))

namespace Number

variable {text : List Char} {value : Value}

/-- The characters of a number literal can stand in one. -/
lemma isNumberChar (h : Number text value) : ∀ c ∈ text, IsNumberChar c := by
  cases h with
  | decimal hsign hfirst hrest =>
    refine isNumberChar_of_signed hsign (List.forall_mem_cons.mpr ⟨?_, hrest.isNumberChar⟩)
    exact .inl (isDigitOf_hexDigit _ _ hfirst)
  | radix hsign hbase hword =>
    refine isNumberChar_of_signed hsign (List.forall_mem_cons.mpr ⟨.inl rfl, ?_⟩)
    refine List.forall_mem_cons.mpr ⟨.inr (.inl ?_), hword.isNumberChar⟩
    rw [hbase]
    rfl
  | float hsign hword => exact isNumberChar_of_signed hsign (isNumberChar_of_floatWord hword)

/-- A number literal starts with a digit, a point or a sign. -/
lemma exists_head (h : Number text value) :
    ∃ c rest, text = c :: rest ∧ (c.isDigit = true ∨ c ∈ ['.', '+', '-']) := by
  cases h with
  | decimal hsign hfirst =>
    exact hsign.exists_head ⟨_, _, rfl, .inl (isDigitOf_ten_iff.mp hfirst).1⟩
  | radix hsign => exact hsign.exists_head ⟨'0', _, rfl, .inl rfl⟩
  | float hsign hword => exact hsign.exists_head hword.exists_head

/-- A number literal denotes an integer or a floating-point number. -/
lemma value_cases (h : Number text value) : (∃ n, value = .integer n) ∨ ∃ x, value = .float x := by
  cases h with
  | decimal => exact .inl ⟨_, rfl⟩
  | radix => exact .inl ⟨_, rfl⟩
  | float => exact .inr ⟨_, rfl⟩

end Number

end ConfigTree.Value
