import ConfigTree.Proofs.Text.Lowercase
import ConfigTree.Proofs.Value.Literal
import ConfigTree.Value.Basic

set_option relaxedAutoImplicit false
set_option autoImplicit false

/-!
# Inference and the coercion of texts

A text of decimal digits can be read as an integer, and a word such as `yes` as a truth value,
without any inference. Inference takes some of these texts for literals. What they denote then
stands for the same integer, or the same truth value, and the other texts stay as they are.

Not every text of digits is a literal, since digits with leading zeros are none. Of the words for
truth values, only the capitalized names of the truth values and the two digits are literals.

## Main results

* `ConfigTree.Value.infer_of_int?` — what inference makes of the text of an integer of 64 bits.
* `ConfigTree.Value.toBool?_infer` — what it makes of a word for a truth value.
-/

namespace ConfigTree.Value

open Decimal
open Text (trim lowercase IsLower)

/-! ## Integers -/

/-- **Digits with a sign** are a literal for the integer that they spell, if they are one at all. -/
lemma Number.value_eq_of_digitWord {text word : List Char} {negative : Bool} {value : Value}
    (h : Number text value) (hsign : Signed word text negative) (hword : DigitWord word) :
    value = .integer (Int64.ofInt (signed negative (Nat.ofDigitChars 10 word 0))) := by
  have hsplit := hsign.splitSign_eq hword.head?_ne
  cases h with
  | @decimal rest first negative' d digits hsign' hfirst hrest hzero hlo hhi =>
    have hhead : (first :: rest).head?.any Char.isDigit = true := (isDigitOf_ten_iff.mp hfirst).1
    obtain ⟨rfl, rfl⟩ : negative = negative' ∧ word = first :: rest :=
      Prod.mk.inj (hsplit.symm.trans (hsign'.splitSign_eq (head?_ne_of_isDigit hhead)))
    obtain ⟨found, hfound, hdigits⟩ := grouped_ten_iff.mp hrest
    -- There are no underscores among the digits of a word.
    have hplain := ungroup?_of_isDigit fun c hc => hword.2 c (List.mem_cons_of_mem _ hc)
    obtain rfl : rest = found := Option.some.inj (hplain.symm.trans hfound)
    rw [ofDigitChars_eq_magnitude (.cons hfirst hdigits)]
  | @radix word' letter negative' base digits hsign' hbase =>
    have hwords := hsign.eq_of_head? hsign' hword.head?_ne (by simp)
    have hdigit : letter.isDigit = true := hword.2 letter (by simp [hwords])
    have hletter : ∀ c ∈ ['x', 'X', 'o', 'O', 'b', 'B'], c.isDigit = false :=
      List.all_iff_forall_prop.mp (by decide)
    simp [hletter letter (base?_letter hbase)] at hdigit
  | @float word' negative' decimal hsign' hfloat =>
    have hwords := hsign.eq_of_head? hsign' hword.head?_ne hfloat.head?_ne
    obtain ⟨mark, hmem, hmark⟩ := hfloat.exists_mark
    have hdigit : mark.isDigit = true := hword.2 mark (by rwa [hwords])
    have hnone : ∀ c ∈ ['.', 'e', 'E'], c.isDigit = false := List.all_iff_forall_prop.mp (by decide)
    simp [hnone mark hmark] at hdigit

/-- **The text of an integer** of 64 bits is inferred to be this integer, or stays as it is. -/
lemma infer_of_int? {text : String} {n : Int64}
    (h : (int? (trim text.toList)).bind int64? = some n) :
    infer text = .integer n ∨ infer text = .string text := by
  obtain ⟨k, hk, hn⟩ := Option.bind_eq_some_iff.mp h
  obtain ⟨word, negative, hsign, hword, rfl⟩ := int?_eq_some_iff.mp hk
  obtain ⟨-, rfl⟩ := int64?_eq_some_iff.mp hn
  have hhead : ∃ c rest, word = c :: rest ∧ (c.isDigit = true ∨ c = '.') := by
    obtain ⟨c, rest, rfl⟩ := List.exists_cons_of_ne_nil hword.1
    exact ⟨c, rest, rfl, .inl (hword.2 c List.mem_cons_self)⟩
  obtain ⟨c, rest, htext, hc⟩ := hsign.exists_head hhead
  rw [infer, parseLiteral?_of_number_trim htext hc]
  cases hnumber : numberLiteral? (trim text.toList) with
  | none => exact .inr rfl
  | some value =>
    left
    rw [Option.getD_some]
    exact (numberLiteral?_eq_some_iff.mp hnumber).value_eq_of_digitWord hsign hword

/-! ## Truth values -/

/-- A text that is read as a truth value is one of the words for it, up to case and blanks. -/
lemma mem_of_wordToBool? {text : String} {b : Bool} (h : wordToBool? text = some b) :
    String.ofList (lowercase (trim text.toList)) ∈ if b then truthWords else falsehoodWords := by
  simp only [wordToBool?] at h
  split at h
  · rename_i hmem
    obtain rfl := Option.some.inj h
    exact hmem
  split at h
  · rename_i hmem
    obtain rfl := Option.some.inj h
    exact hmem
  · simp at h

/-- A word for a truth value that starts with no letter is the digit for it. -/
lemma trim_eq_of_wordToBool? {text : String} {c : Char} {rest : List Char} {b : Bool}
    (htext : trim text.toList = c :: rest) (hlower : IsLower c) (hc : c.toNat < 'a'.toNat)
    (h : wordToBool? text = some b) : trim text.toList = [if b then '1' else '0'] := by
  have hwords : ∀ b : Bool, ∀ word ∈ (if b then truthWords else falsehoodWords),
      word.toList.head?.any (fun c => 'a'.toNat ≤ c.toNat) = true ∨
        word = String.ofList [if b then '1' else '0'] := by decide
  have hmem := mem_of_wordToBool? h
  rw [htext, Text.lowercase_cons hlower] at hmem
  rcases hwords b _ hmem with hhead | hdigit
  · have hle : 'a'.toNat ≤ c.toNat := by simpa using hhead
    omega
  · obtain ⟨rfl, hrest⟩ := List.cons.inj (String.ofList_injective hdigit)
    rw [htext, Text.lowercaseFrom_eq_nil_iff.mp hrest]

/-- A literal is the word for null or for a truth value, or a number, or it starts with a quote or a
bracket. -/
lemma Literal.shape {text : List Char} {value : Value} (h : Literal text value) :
    text = "None".toList ∨
      (∃ b : Bool, text = (if b then "True" else "False").toList ∧ value = .bool b) ∨
      Number text value ∨ ∃ c rest, text = c :: rest ∧ c ∈ ['\x27', '"', '[', '('] := by
  have hbracket (round : Bool) (inner : List Char) :
      ∃ c rest, enclose round inner = c :: rest ∧ c ∈ ['\x27', '"', '[', '('] := by
    cases round <;> exact ⟨_, _, rfl, by simp⟩
  cases h with
  | absence => exact .inl rfl
  | truth => exact .inr (.inl ⟨true, rfl, rfl⟩)
  | falsehood => exact .inr (.inl ⟨false, rfl, rfl⟩)
  | number h => exact .inr (.inr (.inl h))
  | @quoted quote body found hquote =>
    refine .inr (.inr (.inr ⟨quote, body ++ [quote], rfl, ?_⟩))
    rcases hquote with rfl | rfl <;> simp
  | empty round => exact .inr (.inr (.inr (hbracket round _)))
  | sequence round => exact .inr (.inr (.inr (hbracket round _)))
  | parenthesized => exact .inr (.inr (.inr (hbracket true _)))

/-- The characters that numbers and literals with quotes or brackets start with are kept by
lower-casing, and come before the letters in lower case. -/
lemma isLower_of_head {c : Char}
    (hc : c.isDigit = true ∨ c ∈ ['.', '+', '-', '\x27', '"', '[', '(']) :
    IsLower c ∧ c.toNat < 'a'.toNat := by
  rcases hc with hdigit | hmark
  · have hle : c.toNat ≤ '9'.toNat := (Char.isDigit_iff_toNat.mp hdigit).2
    have hlt : c.toNat < 'A'.toNat := Nat.lt_of_le_of_lt hle (by decide)
    exact ⟨Text.isLower_of_lt hlt, Nat.lt_trans hlt (by decide)⟩
  · have hmarks : ∀ c ∈ ['.', '+', '-', '\x27', '"', '[', '('],
        Text.lowerCode c.toNat = c.toNat ∧ c ≠ 'İ' ∧ c.toNat < 'a'.toNat :=
      List.all_iff_forall_prop.mp (by decide)
    obtain ⟨hcode, hdot, hlt⟩ := hmarks c hmark
    exact ⟨Text.isLower_of_lowerCode hcode hdot, hlt⟩

/-- **A word for a truth value** that is a literal denotes this truth value or the digit for it.

**Proof sketch.** All words but the two digits start with a letter, and the only literals that start
with a letter are words themselves. Any other literal starts with a character that lower-casing
keeps: a digit, a point, a sign, a quote or a bracket. -/
lemma Literal.toBool?_eq {text : String} {value : Value} {b : Bool}
    (h : Literal (trim text.toList) value) (hword : wordToBool? text = some b) :
    value.toBool? = some b := by
  have hmem := mem_of_wordToBool? hword
  rcases h.shape with htext | ⟨b', htext, rfl⟩ | hnumber | ⟨c, rest, htext, hc⟩
  · have hnone : ∀ b : Bool, String.ofList (lowercase "None".toList) ∉
        if b then truthWords else falsehoodWords := by decide
    rw [htext] at hmem
    exact absurd hmem (hnone b)
  · have hname : ∀ b b' : Bool, String.ofList (lowercase (if b' then "True" else "False").toList) ∈
        (if b then truthWords else falsehoodWords) → b' = b := by decide
    rw [htext] at hmem
    rw [hname b b' hmem]
    rfl
  · obtain ⟨c, rest, htext, hc⟩ := hnumber.exists_head
    obtain ⟨hlower, hlt⟩ :=
      isLower_of_head (hc.imp_right (List.mem_append_left ['\x27', '"', '[', '(']))
    rw [trim_eq_of_wordToBool? htext hlower hlt hword] at hnumber
    have hdigit : DigitWord [if b then '1' else '0'] :=
      ⟨List.cons_ne_nil _ _, List.forall_mem_singleton.mpr (by cases b <;> rfl)⟩
    rw [hnumber.value_eq_of_digitWord .plain hdigit]
    cases b <;> rfl
  · obtain ⟨hlower, hlt⟩ := isLower_of_head (.inr (List.mem_append_right ['.', '+', '-'] hc))
    have hdigit := trim_eq_of_wordToBool? htext hlower hlt hword
    obtain rfl := (List.cons.inj (htext.symm.trans hdigit)).1
    cases b <;> exact absurd hc (by decide)

/-- **A word for a truth value** stands for the same truth value if it is inferred. -/
lemma toBool?_infer {text : String} {b : Bool} (h : wordToBool? text = some b) :
    (infer text).toBool? = some b := by
  rw [infer]
  cases hparse : parseLiteral? text.toList with
  | none => exact h
  | some value => exact (literal_of_parseLiteral? hparse).toBool?_eq h

end ConfigTree.Value
