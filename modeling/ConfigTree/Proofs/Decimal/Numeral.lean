import Mathlib.Data.Int.Notation
import Mathlib.Data.List.Basic
import ConfigTree.Decimal.Numeral

set_option relaxedAutoImplicit false
set_option autoImplicit false

/-!
# The grammar of numerals

A numeral is a word of digits, or it has a point or an exponent besides its digits. There may be a
sign before it. The readers of numerals accept exactly the texts of this grammar.

## Main definitions

* `ConfigTree.Decimal.Signed` — a word with an optional sign.
* `ConfigTree.Decimal.DigitWord` — a word of decimal digits.
* `ConfigTree.Decimal.Exponent` — the exponent at the end of a numeral.
* `ConfigTree.Decimal.FloatWord` — numerals with a point or an exponent.

## Main results

* `ConfigTree.Decimal.natOfDigits?_eq_some_iff`, `ConfigTree.Decimal.int?_eq_some_iff` — integers.
* `ConfigTree.Decimal.exponent?_eq_some_iff` — what may stand at the end of a numeral.
* `ConfigTree.Decimal.numeral?_eq_some_iff` — numerals without sign.
* `ConfigTree.Decimal.binary64?_of_signed` — the number that a numeral with an optional sign denotes.
-/

namespace ConfigTree.Decimal

/-! ## Signs -/

/-- The text is the word with an optional sign before it, which says whether it is negative. -/
inductive Signed (word : List Char) : List Char → Bool → Prop where
  /-- There is no sign. -/
  | plain : Signed word word false
  /-- There is a plus sign. -/
  | plus : Signed word ('+' :: word) false
  /-- There is a minus sign. -/
  | minus : Signed word ('-' :: word) true

/-- A text is its word with the sign that is split off. -/
lemma signed_splitSign (text : List Char) : Signed (splitSign text).2 text (splitSign text).1 := by
  unfold splitSign
  split
  · exact .minus
  · exact .plus
  · exact .plain

/-- A word that starts with a digit does not start with a sign. -/
lemma head?_ne_of_isDigit {word : List Char} (h : word.head?.any Char.isDigit = true) :
    word.head? ≠ some '+' ∧ word.head? ≠ some '-' := by
  cases hhead : word.head? with
  | none => simp [hhead] at h
  | some c =>
    rw [hhead] at h
    constructor <;> rintro ⟨⟩ <;> exact absurd h (by decide)

namespace Signed

variable {word text : List Char} {negative : Bool}

/-- A sign is split off again, if the word starts with no sign itself. -/
lemma splitSign_eq (h : Signed word text negative)
    (hhead : word.head? ≠ some '+' ∧ word.head? ≠ some '-') :
    splitSign text = (negative, word) := by
  obtain ⟨hplus, hminus⟩ := hhead
  cases h with
  | plain =>
    unfold splitSign
    split
    · simp at hminus
    · simp at hplus
    · rfl
  | plus => rfl
  | minus => rfl

/-- The sign of a text and the word after it are unique, if the word starts with no sign itself. -/
lemma eq_of_head? {word' : List Char} {negative' : Bool} (h : Signed word text negative)
    (h' : Signed word' text negative') (hhead : word.head? ≠ some '+' ∧ word.head? ≠ some '-')
    (hhead' : word'.head? ≠ some '+' ∧ word'.head? ≠ some '-') : word = word' :=
  congrArg Prod.snd ((h.splitSign_eq hhead).symm.trans (h'.splitSign_eq hhead'))

/-- The characters of the word are characters of the text. -/
lemma mem (h : Signed word text negative) {c : Char} (hc : c ∈ word) : c ∈ text := by
  cases h with
  | plain => exact hc
  | plus => exact List.mem_cons_of_mem _ hc
  | minus => exact List.mem_cons_of_mem _ hc

/-- A character of the text belongs to the word, or it is the sign. -/
lemma mem_cases (h : Signed word text negative) {c : Char} (hc : c ∈ text) :
    c ∈ word ∨ c = '+' ∨ c = '-' := by
  cases h with
  | plain => exact .inl hc
  | plus =>
    rcases List.mem_cons.mp hc with rfl | hc
    · exact .inr (.inl rfl)
    · exact .inl hc
  | minus =>
    rcases List.mem_cons.mp hc with rfl | hc
    · exact .inr (.inr rfl)
    · exact .inl hc

/-- If the word starts with a digit or a point, the text starts with one of these or with a sign. -/
lemma exists_head (h : Signed word text negative)
    (hword : ∃ c rest, word = c :: rest ∧ (c.isDigit = true ∨ c = '.')) :
    ∃ c rest, text = c :: rest ∧ (c.isDigit = true ∨ c ∈ ['.', '+', '-']) := by
  cases h with
  | plain =>
    obtain ⟨c, rest, rfl, hc⟩ := hword
    exact ⟨c, rest, rfl, hc.imp_right fun h => by simp [h]⟩
  | plus => exact ⟨'+', _, rfl, .inr (by simp)⟩
  | minus => exact ⟨'-', _, rfl, .inr (by simp)⟩

end Signed

/-! ## Integers -/

/-- The word consists of decimal digits, and of at least one. -/
def DigitWord (word : List Char) : Prop :=
  word ≠ [] ∧ ∀ c ∈ word, c.isDigit = true

/-- A word of digits does not start with a sign. -/
lemma DigitWord.head?_ne {word : List Char} (h : DigitWord word) :
    word.head? ≠ some '+' ∧ word.head? ≠ some '-' := by
  obtain ⟨c, rest, rfl⟩ := List.exists_cons_of_ne_nil h.1
  exact head?_ne_of_isDigit (h.2 c List.mem_cons_self)

/-- A word has a value as a natural number exactly if it is a word of digits. -/
lemma natOfDigits?_eq_some_iff {word : List Char} {n : ℕ} :
    natOfDigits? word = some n ↔ DigitWord word ∧ n = Nat.ofDigitChars 10 word 0 := by
  rw [natOfDigits?, DigitWord, ← List.all_eq_true]
  by_cases h : word ≠ [] ∧ word.all Char.isDigit = true
  · rw [if_pos h, Option.some.injEq]
    exact ⟨fun heq => ⟨h, heq.symm⟩, fun heq => heq.2.symm⟩
  · rw [if_neg h]
    exact ⟨fun heq => by simp at heq, fun hword => absurd hword.1 h⟩

/-- **Integers** are words of digits with an optional sign. -/
lemma int?_eq_some_iff {text : List Char} {n : ℤ} :
    int? text = some n ↔ ∃ word negative, Signed word text negative ∧ DigitWord word ∧
      n = signed negative (Nat.ofDigitChars 10 word 0) := by
  constructor
  · intro h
    simp only [int?] at h
    obtain ⟨m, hm, rfl⟩ := Option.map_eq_some_iff.mp h
    obtain ⟨hword, rfl⟩ := natOfDigits?_eq_some_iff.mp hm
    exact ⟨_, _, signed_splitSign text, hword, rfl⟩
  · rintro ⟨word, negative, hsign, hword, rfl⟩
    simp only [int?, hsign.splitSign_eq hword.head?_ne,
      natOfDigits?_eq_some_iff.mpr ⟨hword, rfl⟩, Option.map_some]

/-! ## Exponents -/

/-- An exponent: a letter, an optional sign, and digits. -/
inductive Exponent : List Char → ℤ → Prop where
  /-- The letter, and a word of digits with a sign that may be left out. -/
  | intro {letter : Char} {text word : List Char} {negative : Bool}
      (hletter : letter = 'e' ∨ letter = 'E') (hsign : Signed word text negative)
      (hword : DigitWord word) :
      Exponent (letter :: text) (signed negative (Nat.ofDigitChars 10 word 0))

/-- An exponent starts with no digit. -/
lemma Exponent.takeWhile_eq {tail : List Char} {power : ℤ} (h : Exponent tail power) :
    tail.takeWhile Char.isDigit = [] := by
  cases h with
  | intro hletter => rcases hletter with rfl | rfl <;> rfl

/-- All characters of an exponent are digits, letters of exponents and signs. -/
lemma Exponent.mem_cases {tail : List Char} {power : ℤ} (h : Exponent tail power) {c : Char}
    (hc : c ∈ tail) : c.isDigit = true ∨ c ∈ ['.', 'e', 'E', '+', '-'] := by
  obtain ⟨hletter, hsign, hword⟩ := h
  rcases List.mem_cons.mp hc with rfl | hc
  · rcases hletter with rfl | rfl <;> simp
  · rcases hsign.mem_cases hc with hc | rfl | rfl
    · exact .inl (hword.2 c hc)
    · simp
    · simp

/-- What follows the digits of a numeral is nothing, or an exponent. -/
lemma exponent?_eq_some_iff {tail : List Char} {power : ℤ} :
    exponent? tail = some power ↔ tail = [] ∧ power = 0 ∨ Exponent tail power := by
  constructor
  · intro h
    unfold exponent? at h
    split at h
    · exact .inl ⟨rfl, (Option.some.inj h).symm⟩
    · split at h
      · rename_i hletter
        obtain ⟨word, negative, hsign, hword, rfl⟩ := int?_eq_some_iff.mp h
        exact .inr (.intro hletter hsign hword)
      · simp at h
  · rintro (⟨rfl, rfl⟩ | ⟨hletter, hsign, hword⟩)
    · rfl
    · rw [exponent?, if_pos hletter]
      exact int?_eq_some_iff.mpr ⟨_, _, hsign, hword, rfl⟩

/-! ## Numerals with a point or an exponent -/

/-- A numeral without sign that has a point or an exponent, and the decimal that it spells. -/
inductive FloatWord : List Char → Decimal → Prop where
  /-- There are digits before or after the point, and maybe an exponent. -/
  | point {whole fraction tail : List Char} {power : ℤ} (hdigits : DigitWord (whole ++ fraction))
      (htail : tail = [] ∧ power = 0 ∨ Exponent tail power) :
      FloatWord (whole ++ '.' :: (fraction ++ tail))
        ⟨Nat.ofDigitChars 10 (whole ++ fraction) 0, power - fraction.length⟩
  /-- There are digits and an exponent. -/
  | scale {whole tail : List Char} {power : ℤ} (hdigits : DigitWord whole)
      (htail : Exponent tail power) :
      FloatWord (whole ++ tail) ⟨Nat.ofDigitChars 10 whole 0, power⟩

/-- Digits are divided from a rest that starts with no digit. -/
lemma takeWhile_digits {digits rest : List Char} (hdigits : ∀ c ∈ digits, c.isDigit = true)
    (hrest : rest.takeWhile Char.isDigit = []) :
    (digits ++ rest).takeWhile Char.isDigit = digits ∧
      (digits ++ rest).dropWhile Char.isDigit = rest := by
  have htake : (digits ++ rest).takeWhile Char.isDigit = digits := by
    rw [List.takeWhile_append_of_pos hdigits, hrest, List.append_nil]
  have happend := List.takeWhile_append_dropWhile (p := Char.isDigit) (l := digits ++ rest)
  rw [htake] at happend
  exact ⟨htake, List.append_cancel_left happend⟩

/-- A numeral with a point is divided at the point and at the end of the digits after it. -/
lemma numeral?_point {whole : List Char} (hwhole : ∀ c ∈ whole, c.isDigit = true)
    (rest : List Char) :
    numeral? (whole ++ '.' :: rest) =
      (natOfDigits? (whole ++ rest.takeWhile Char.isDigit)).bind fun n =>
        (exponent? (rest.dropWhile Char.isDigit)).map fun power =>
          ⟨n, power - (rest.takeWhile Char.isDigit).length⟩ := by
  obtain ⟨htake, hdrop⟩ := takeWhile_digits hwhole
    (show ('.' :: rest).takeWhile Char.isDigit = [] from rfl)
  simp only [numeral?, htake, hdrop]
  cases natOfDigits? (whole ++ rest.takeWhile Char.isDigit) with
  | none => rfl
  | some n => cases exponent? (rest.dropWhile Char.isDigit) <;> rfl

/-- A numeral without a point is divided at the end of its digits. -/
lemma numeral?_noPoint {whole after : List Char} (hwhole : ∀ c ∈ whole, c.isDigit = true)
    (hafter : after.takeWhile Char.isDigit = []) (hpoint : ∀ rest, after ≠ '.' :: rest) :
    numeral? (whole ++ after) =
      (natOfDigits? whole).bind fun n => (exponent? after).map fun power => ⟨n, power⟩ := by
  obtain ⟨htake, hdrop⟩ := takeWhile_digits hwhole hafter
  simp only [numeral?, htake, hdrop, List.append_nil, List.length_nil]
  cases natOfDigits? whole with
  | none => rfl
  | some n => cases exponent? after <;> simp

/-- A text is divided at the end of the digits with which it starts. -/
lemma exists_digits_append (word : List Char) :
    ∃ whole after, word = whole ++ after ∧ (∀ c ∈ whole, c.isDigit = true) ∧
      after.takeWhile Char.isDigit = [] := by
  refine ⟨word.takeWhile Char.isDigit, word.dropWhile Char.isDigit,
    List.takeWhile_append_dropWhile.symm, List.all_eq_true.mp List.all_takeWhile, ?_⟩
  have hhead := List.head?_dropWhile_not Char.isDigit word
  cases hdrop : word.dropWhile Char.isDigit with
  | nil => rfl
  | cons c rest =>
    have hc : c.isDigit = false := by simpa [hdrop] using hhead
    simp [hc]

/-- The reader of numerals reads the numerals with a point or an exponent. -/
lemma FloatWord.numeral?_eq {word : List Char} {decimal : Decimal} (h : FloatWord word decimal) :
    numeral? word = some decimal := by
  cases h with
  | @point whole fraction tail power hdigits htail =>
    have hwhole : ∀ c ∈ whole, c.isDigit = true := fun c hc =>
      hdigits.2 c (List.mem_append_left _ hc)
    have hfraction : ∀ c ∈ fraction, c.isDigit = true := fun c hc =>
      hdigits.2 c (List.mem_append_right _ hc)
    have hend : tail.takeWhile Char.isDigit = [] := by
      rcases htail with ⟨rfl, -⟩ | hexponent
      · rfl
      · exact hexponent.takeWhile_eq
    obtain ⟨htake, hdrop⟩ := takeWhile_digits hfraction hend
    rw [numeral?_point hwhole, htake, hdrop, natOfDigits?_eq_some_iff.mpr ⟨hdigits, rfl⟩,
      exponent?_eq_some_iff.mpr htail]
    rfl
  | @scale whole tail power hdigits htail =>
    have hpoint : ∀ rest, tail ≠ '.' :: rest := by
      rintro rest rfl
      obtain ⟨hletter, -, -⟩ := htail
      simp at hletter
    rw [numeral?_noPoint hdigits.2 htail.takeWhile_eq hpoint,
      natOfDigits?_eq_some_iff.mpr ⟨hdigits, rfl⟩, exponent?_eq_some_iff.mpr (.inr htail)]
    rfl

/-- A word of digits is the numeral of a whole number. -/
lemma DigitWord.numeral?_eq {word : List Char} (h : DigitWord word) :
    numeral? word = some ⟨Nat.ofDigitChars 10 word 0, 0⟩ := by
  have hread := numeral?_noPoint h.2 (show [].takeWhile Char.isDigit = [] from rfl) (by simp)
  rw [List.append_nil, natOfDigits?_eq_some_iff.mpr ⟨h, rfl⟩] at hread
  exact hread

/-- **Numerals without sign** have a point or an exponent, or are words of digits.

**Proof sketch.** The reader divides the text at the end of its first digits. A point may come next,
and the text is divided again at the end of the digits after it. -/
lemma numeral?_eq_some_iff {word : List Char} {decimal : Decimal} :
    numeral? word = some decimal ↔ FloatWord word decimal ∨
      DigitWord word ∧ decimal = ⟨Nat.ofDigitChars 10 word 0, 0⟩ := by
  constructor
  · intro h
    obtain ⟨whole, after, rfl, hwhole, hafter⟩ := exists_digits_append word
    by_cases hpoint : ∃ rest, after = '.' :: rest
    · obtain ⟨rest, rfl⟩ := hpoint
      rw [numeral?_point hwhole] at h
      obtain ⟨n, hnat, h⟩ := Option.bind_eq_some_iff.mp h
      obtain ⟨power, hpower, rfl⟩ := Option.map_eq_some_iff.mp h
      obtain ⟨hdigits, rfl⟩ := natOfDigits?_eq_some_iff.mp hnat
      have hfloat := FloatWord.point hdigits (exponent?_eq_some_iff.mp hpower)
      rw [List.takeWhile_append_dropWhile] at hfloat
      exact .inl hfloat
    · rw [numeral?_noPoint hwhole hafter fun rest hrest => hpoint ⟨rest, hrest⟩] at h
      obtain ⟨n, hnat, h⟩ := Option.bind_eq_some_iff.mp h
      obtain ⟨power, hpower, rfl⟩ := Option.map_eq_some_iff.mp h
      obtain ⟨hdigits, rfl⟩ := natOfDigits?_eq_some_iff.mp hnat
      rcases exponent?_eq_some_iff.mp hpower with ⟨rfl, rfl⟩ | hexponent
      · rw [List.append_nil]
        exact .inr ⟨hdigits, rfl⟩
      · exact .inl (.scale hdigits hexponent)
  · rintro (hword | ⟨hword, rfl⟩)
    · exact hword.numeral?_eq
    · exact hword.numeral?_eq

namespace FloatWord

variable {word : List Char} {decimal : Decimal}

/-- A numeral with a point or an exponent shows this by one of its characters. -/
lemma exists_mark (h : FloatWord word decimal) : ∃ c ∈ word, c ∈ ['.', 'e', 'E'] := by
  cases h with
  | point => exact ⟨'.', by simp, by simp⟩
  | scale _ htail =>
    obtain ⟨hletter, -, -⟩ := htail
    exact ⟨_, List.mem_append_right _ List.mem_cons_self, by simpa using .inr hletter⟩

/-- All characters of a numeral are digits, points, letters of exponents and signs. -/
lemma mem_cases (h : FloatWord word decimal) {c : Char} (hc : c ∈ word) :
    c.isDigit = true ∨ c ∈ ['.', 'e', 'E', '+', '-'] := by
  cases h with
  | point hdigits htail =>
    rcases List.mem_append.mp hc with hc | hc
    · exact .inl (hdigits.2 c (List.mem_append_left _ hc))
    rcases List.mem_cons.mp hc with rfl | hc
    · simp
    rcases List.mem_append.mp hc with hc | hc
    · exact .inl (hdigits.2 c (List.mem_append_right _ hc))
    rcases htail with ⟨rfl, -⟩ | htail
    · simp at hc
    · exact htail.mem_cases hc
  | scale hdigits htail =>
    rcases List.mem_append.mp hc with hc | hc
    · exact .inl (hdigits.2 c hc)
    · exact htail.mem_cases hc

/-- A numeral starts with a digit or a point. -/
lemma exists_head (h : FloatWord word decimal) :
    ∃ c rest, word = c :: rest ∧ (c.isDigit = true ∨ c = '.') := by
  cases h with
  | @point whole fraction tail power hdigits =>
    cases whole with
    | nil => exact ⟨'.', _, rfl, .inr rfl⟩
    | cons c rest =>
      exact ⟨c, _, rfl, .inl (hdigits.2 c (List.mem_append_left _ List.mem_cons_self))⟩
  | @scale whole tail power hdigits =>
    cases whole with
    | nil => exact absurd rfl hdigits.1
    | cons c rest => exact ⟨c, _, rfl, .inl (hdigits.2 c List.mem_cons_self)⟩

/-- Such a numeral does not start with a sign. -/
lemma head?_ne (h : FloatWord word decimal) : word.head? ≠ some '+' ∧ word.head? ≠ some '-' := by
  obtain ⟨c, rest, rfl, hc | rfl⟩ := h.exists_head
  · exact head?_ne_of_isDigit hc
  · simp

end FloatWord

/-- A numeral with a point or an exponent denotes the number that is nearest to its decimal. -/
lemma binary64?_of_signed {word text : List Char} {negative : Bool} {decimal : Decimal}
    (hsign : Signed word text negative) (hword : FloatWord word decimal) :
    binary64? text = some (Binary64.ofRank negative decimal.rank) := by
  simp only [binary64?, hsign.splitSign_eq hword.head?_ne, hword.numeral?_eq, Option.map_some]

end ConfigTree.Decimal
