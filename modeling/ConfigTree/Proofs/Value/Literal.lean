import ConfigTree.Options
import ConfigTree.Proofs.Decimal.Written
import ConfigTree.Proofs.Value.Grammar
import ConfigTree.Proofs.Value.NumberGrammar

set_option relaxedAutoImplicit false
set_option autoImplicit false

/-!
# Literals that are written and read again

Inference takes the literal text of a value back to this value, if all numbers in the value are
finite. The texts that are written for the other numbers are no literals, so that a value with such a
number is read as a text.

What inference gives is a value without mappings, and a text among these values has no dollar sign
unless the literal has one itself. A text without dollar signs thus never becomes a text with
references when it is inferred.

## Main definitions

* `ConfigTree.Binary64.IsFinite` — the finite numbers.
* `ConfigTree.Value.Plain` — values without mappings, in which all numbers satisfy a condition.
* `ConfigTree.Value.Exact` — values without mappings and without floating-point numbers.

## Main results

* `ConfigTree.Value.number_intText`, `ConfigTree.Value.number_write` — the literals of an integer and
  of a finite floating-point number.
* `ConfigTree.Value.parseLiteral?_literalChars` — a value with finite numbers is read back.
* `ConfigTree.Value.parseLiteral?_literalChars_eq_none` — any other value is not read at all.
* `ConfigTree.Value.infer_toLiteral`, `ConfigTree.Value.infer_toLiteral_of_not_finite` — the same for
  the inference of literal texts.
* `ConfigTree.Value.infer_toLiteral_of_exact` — inference of the literal texts of exact values.
* `ConfigTree.Value.plain_of_parseLiteral?` — the values that literals denote.
* `ConfigTree.Value.hasDollar_of_infer` — inference introduces no dollar sign.

## Implementation notes

What is written for a text or a finite number is a literal of the grammar, and is read as such. What
is written for a sequence is cut into its items in either case, so that the items decide whether it
is a literal.
-/

namespace ConfigTree

open Decimal

/-- A word of 64 bits is the word of its integer. -/
lemma int64?_toInt (n : Int64) : int64? n.toInt = some n := by
  have hlo : -Int.pow 2 63 ≤ n.toInt := Int64.le_toInt n
  have hhi : n.toInt < Int.pow 2 63 := Int64.toInt_lt n
  rw [int64?, if_pos ⟨hlo, hhi⟩, Int64.ofInt_toInt]

namespace Value

/-! ## Integers -/

/-- The digits of a positive number do not start with a zero. -/
lemma head?_toDigits {n : ℕ} (hn : n ≠ 0) : (Nat.toDigits 10 n).head? ≠ some '0' := by
  induction n using Nat.strongRecOn with
  | _ n ih =>
    by_cases hlt : n < 10
    · rw [Nat.toDigits_of_lt_base hlt]
      have hdigit : ∀ k < 10, k ≠ 0 → [Nat.digitChar k].head? ≠ some '0' := by decide
      exact hdigit n hlt hn
    · rw [Nat.toDigits_of_base_le (by omega) (by omega),
        List.head?_append_of_ne_nil _ Nat.toDigits_ne_nil]
      exact ih (n / 10) (by omega) (by omega)

/-- The digits of a number have no needless zero before them. -/
lemma isPlain_toDigits (n : ℕ) : isPlain (Nat.toDigits 10 n) = true := by
  by_cases hn : n = 0
  · rw [hn]
    rfl
  · simp [isPlain, head?_toDigits hn]

/-- A word of digits has no underscores to drop. -/
lemma ungroup?_of_isDigit {text : List Char} (h : ∀ c ∈ text, c.isDigit = true) :
    ungroup? Char.isDigit text = some text := by
  induction text with
  | nil => rfl
  | cons c rest ih =>
    obtain ⟨hc, hrest⟩ := List.forall_mem_cons.mp h
    rw [ungroup?_cons hc, ih hrest, Option.map_some]

/-- **An integer** is written as an integer literal. -/
lemma number_intText (n : Int64) : Number (intText n.toInt) (.integer n) := by
  have hword := digitWord_toDigits n.toInt.natAbs
  have hhead : (Nat.toDigits 10 n.toInt.natAbs).head?.any Char.isDigit = true := by
    obtain ⟨c, rest, hdigits⟩ := List.exists_cons_of_ne_nil hword.1
    rw [hdigits]
    exact hword.2 c (by rw [hdigits]; exact List.mem_cons_self)
  have hdecimal : decimalLiteral? (intText n.toInt) = some n.toInt := by
    simp only [decimalLiteral?, (signed_intText n.toInt).splitSign_eq hword.head?_ne,
      ungroup?_of_isDigit hword.2, hhead, isPlain_toDigits, if_true, signed_toDigits]
  rw [← numberLiteral?_eq_some_iff, numberLiteral?, hdecimal]
  simp only [int64?_toInt, Option.map_some]

/-! ## Floating-point numbers -/

/-- **A finite number** is written as a floating-point literal. -/
lemma number_write (negative : Bool) (r : Fin Binary64.ranks) :
    Number (literalStyle.write (.finite negative r)) (.float (.finite negative r)) := by
  obtain ⟨d, hspells, hd⟩ := exists_spells_writeRank r.isLt
  have hnumber := Number.float (signed_write negative r) hspells.floatWord
  rwa [hd, ofRank_eq] at hnumber

end Value

/-- The number is neither infinite nor the value that is not a number. -/
def Binary64.IsFinite (x : Binary64) : Prop :=
  ∃ negative rank, x = .finite negative rank

namespace Value

open Text (trim isBlank)

/-- The value is made up of sequences and no mappings, and all numbers in it satisfy a condition. -/
inductive Plain (number : Binary64 → Prop) : Value → Prop where
  /-- The absence of a value. -/
  | null : Plain number .null
  /-- A truth value. -/
  | bool (b : Bool) : Plain number (.bool b)
  /-- An integer. -/
  | integer (n : Int64) : Plain number (.integer n)
  /-- A number that satisfies the condition. -/
  | float {x : Binary64} (hx : number x) : Plain number (.float x)
  /-- A text. -/
  | string (text : String) : Plain number (.string text)
  /-- A sequence of such values. -/
  | sequence {items : List Value} (hitems : ∀ item ∈ items, Plain number item) :
      Plain number (.sequence items)

/-- The items of a sequence are written one by one. -/
lemma literalItems_eq (items : List Value) : literalItems items = items.map literalChars := by
  induction items with
  | nil => rfl
  | cons item rest ih => rw [literalItems, ih, List.map_cons]

/-! ## Quoted texts -/

/-- An escaped text can stand between quotes, where it stands for the text. -/
lemma quoted_escaped (text : List Char) : Quoted '\x27' (text.flatMap escapeChar) text := by
  induction text with
  | nil => exact .nil
  | cons c rest ih =>
    rw [List.flatMap_cons, escapeChar]
    split
    · rename_i hc
      exact .escape (by rcases hc with rfl | rfl <;> decide) ih
    · rename_i hc
      rw [not_or] at hc
      exact .plain hc.2 hc.1 ih

/-- A text in quotes, with its escapes, is read as the text. -/
lemma reads_quotedLiteral (text : List Char) :
    Reads (quotedLiteral text) (.string (String.ofList text)) :=
  (quoted_escaped text).reads (.inl rfl)

/-! ## Values -/

/-- A weaker condition on the numbers in a value holds as well. -/
lemma Plain.mono {number number' : Binary64 → Prop} {value : Value} (h : value.Plain number)
    (himp : ∀ x, number x → number' x) : value.Plain number' := by
  induction h with
  | null => exact .null
  | bool b => exact .bool b
  | integer n => exact .integer n
  | float hx => exact .float (himp _ hx)
  | string text => exact .string text
  | sequence _ ih => exact .sequence ih

/-- What is written for a number that is not finite. -/
lemma write_of_not_finite {x : Binary64} (hx : ¬ x.IsFinite) :
    literalStyle.write x ∈ ["NaN".toList, "inf".toList, "-inf".toList] := by
  cases x with
  | nan => exact List.mem_cons_self
  | infinite negative => cases negative <;> simp [Style.write, literalStyle]
  | finite negative rank => exact absurd ⟨negative, rank, rfl⟩ hx

/-- The names of the numbers that are not finite are no literals. -/
lemma parseLiteral?_write_of_not_finite {x : Binary64} (hx : ¬ x.IsFinite) :
    parseLiteral? (literalStyle.write x) = none := by
  have hnames : ∀ name ∈ ["NaN".toList, "inf".toList, "-inf".toList],
      bracketed? (trim name) = none ∧ (scalarLiteral? (trim name)).isNone := by decide
  obtain ⟨hbrackets, hnone⟩ := hnames _ (write_of_not_finite hx)
  rw [parseLiteral?_of_scalar hbrackets, Option.isNone_iff_eq_none.mp hnone]

/-- **What is written for a value** without mappings can stand as a part between brackets.

**Proof sketch.** Induction on the value. For a sequence, the blanks and commas between its items are
kept inside of its brackets. -/
lemma kept_literalChars {value : Value} (h : value.Plain fun _ => True) :
    Kept 0 (literalChars value) ∧ trim (literalChars value) ≠ [] := by
  induction h with
  | null => exact ⟨Kept.of_forall (List.all_iff_forall_prop.mp (by decide)), by decide⟩
  | bool b =>
    cases b <;> exact ⟨Kept.of_forall (List.all_iff_forall_prop.mp (by decide)), by decide⟩
  | integer n =>
    have hreads := (number_intText n).reads
    exact ⟨hreads.kept, hreads.trim_ne_nil⟩
  | @float x _ =>
    by_cases hx : x.IsFinite
    · obtain ⟨negative, rank, rfl⟩ := hx
      have hreads := (number_write negative rank).reads
      exact ⟨hreads.kept, hreads.trim_ne_nil⟩
    · have hnames : ∀ name ∈ ["NaN".toList, "inf".toList, "-inf".toList],
          (name.all fun c => c ∉ "'\"[(\x7b])\x7d,".toList) ∧ trim name ≠ [] := by decide
      obtain ⟨hkept, hne⟩ := hnames _ (write_of_not_finite hx)
      exact ⟨Kept.of_forall (List.all_iff_forall_prop.mp hkept), hne⟩
  | string text =>
    have hreads := reads_quotedLiteral text.toList
    exact ⟨hreads.kept, hreads.trim_ne_nil⟩
  | @sequence items _ ih =>
    refine ⟨?_, Text.trim_ne_nil List.mem_cons_self (by decide)⟩
    rw [literalChars, literalItems_eq]
    have hseparator : Kept (0 + 1) [',', ' '] := Kept.comma.append (.singleton (by decide))
    refine Kept.enclose (Kept.intercalate hseparator ?_) false
    rintro text htext
    obtain ⟨item, hitem, rfl⟩ := List.mem_map.mp htext
    exact (ih item hitem).1.mono (Nat.zero_le _)

/-- What is written for a sequence is read as the sequence of what its items are read as. -/
lemma parseLiteral?_items {items : List Value} (h : ∀ item ∈ items, item.Plain fun _ => True) :
    parseLiteral? (literalChars (.sequence items)) =
      (items.mapM fun item => parseLiteral? (literalChars item)).map .sequence := by
  rw [literalChars, literalItems_eq, parseLiteral?_sequence, List.mapM_map]
  · rfl
  · intro text htext
    obtain ⟨item, hitem, rfl⟩ := List.mem_map.mp htext
    exact kept_literalChars (h item hitem)

/-- A run over a list has no value if one of the items has none. -/
lemma mapM_eq_none {α β : Type} {f : α → Option β} {l : List α} (h : ∃ a ∈ l, f a = none) :
    l.mapM f = none := by
  induction l with
  | nil => simp at h
  | cons a rest ih =>
    obtain ⟨b, hb, hnone⟩ := h
    rw [List.mapM_cons]
    rcases List.mem_cons.mp hb with rfl | hrest
    · rw [hnone]
      rfl
    · rw [ih ⟨b, hrest, hnone⟩]
      cases f a <;> rfl

/-- **A value with finite numbers** is read back from its literal.

**Proof sketch.** Induction on the value; the items of a sequence are the parts between its
brackets. -/
lemma parseLiteral?_literalChars {value : Value} (h : value.Plain Binary64.IsFinite) :
    parseLiteral? (literalChars value) = some value := by
  induction h with
  | null => rw [literalChars, parseLiteral?_of_scalar (by decide)]; rfl
  | bool b => cases b <;> (rw [literalChars, parseLiteral?_of_scalar (by decide)]; rfl)
  | integer n => exact (number_intText n).reads.parse
  | float hx =>
    obtain ⟨negative, rank, rfl⟩ := hx
    exact (number_write negative rank).reads.parse
  | string text => rw [literalChars, (reads_quotedLiteral text.toList).parse, String.ofList_toList]
  | @sequence items hitems ih =>
    have hread : items.mapM (fun item => parseLiteral? (literalChars item)) = some items :=
      mapM_eq_some_iff.mpr (List.forall₂_same.mpr ih)
    rw [parseLiteral?_items fun item hitem => (hitems item hitem).mono fun _ _ => trivial, hread,
      Option.map_some]

/-- **A value with a number that is not finite** is written as a text that is no literal. -/
lemma parseLiteral?_literalChars_eq_none {value : Value} (h : value.Plain fun _ => True)
    (hvalue : ¬ value.Plain Binary64.IsFinite) : parseLiteral? (literalChars value) = none := by
  induction h with
  | null => exact absurd .null hvalue
  | bool b => exact absurd (.bool b) hvalue
  | integer n => exact absurd (.integer n) hvalue
  | float => exact parseLiteral?_write_of_not_finite fun hx => hvalue (.float hx)
  | string text => exact absurd (.string text) hvalue
  | @sequence items hitems ih =>
    have hitem : ∃ item ∈ items, ¬ item.Plain Binary64.IsFinite := by
      by_contra hall
      exact hvalue (.sequence fun item hmem => by_contra fun hitem => hall ⟨item, hmem, hitem⟩)
    obtain ⟨item, hmem, hitem⟩ := hitem
    rw [parseLiteral?_items hitems, mapM_eq_none ⟨item, hmem, ih item hmem hitem⟩, Option.map_none]

/-- The literal text of a value that is no text is what is written for it. -/
lemma toLiteral_toList {value : Value} (hvalue : value.isString = false) :
    value.toLiteral.toList = literalChars value := by
  cases value with
  | string text => simp [isString] at hvalue
  | _ => exact String.toList_ofList

/-- **Inference undoes the writing of literal texts** for values with finite numbers. -/
lemma infer_toLiteral {value : Value} (h : value.Plain Binary64.IsFinite)
    (hvalue : value.isString = false) : infer value.toLiteral = value := by
  rw [infer, toLiteral_toList hvalue, parseLiteral?_literalChars h, Option.getD_some]

/-- The literal text of any other value is inferred to be a text. -/
lemma infer_toLiteral_of_not_finite {value : Value} (h : value.Plain fun _ => True)
    (hfinite : ¬ value.Plain Binary64.IsFinite) :
    infer value.toLiteral = .string value.toLiteral := by
  have hvalue : value.isString = false := by
    cases value with
    | string text => exact absurd (.string text) hfinite
    | _ => rfl
  rw [infer, toLiteral_toList hvalue, parseLiteral?_literalChars_eq_none h hfinite, Option.getD_none]

/-! ## Values without floating-point numbers -/

/-- The value is made up of null, truth values, integers, texts, and sequences of such values. -/
def Exact (value : Value) : Prop :=
  value.Plain fun _ => False

/-- An exact value has only finite numbers, as it has none at all. -/
lemma Exact.plain {value : Value} (h : value.Exact) : value.Plain Binary64.IsFinite :=
  Plain.mono h fun _ hx => hx.elim

/-- **The literal text of an exact value** that is no text is inferred to be this value, whatever texts
stand in its sequences.

**Proof sketch.** The items of a sequence are cut apart again (`parseLiteral?_sequence`), since no
comma, bracket or quote of a written value is at the top level (`kept_literalChars`), and each of
them is read back by induction (`parseLiteral?_literalChars`). -/
theorem infer_toLiteral_of_exact {value : Value} (h : value.Exact)
    (hvalue : value.isString = false) : infer value.toLiteral = value :=
  infer_toLiteral h.plain hvalue

/-- A sequence whose texts have quotes, backslashes, commas, brackets and line feeds, or look like
literals themselves. -/
def knottySequence : Value :=
  .sequence [.string "it's \\", .string "\"], [1,\n", .sequence [.string " 42 ", .string "None'"],
    .integer (-3), .null, .sequence []]

/-- Its literal text is inferred to be this sequence. -/
theorem infer_toLiteral_knottySequence :
    knottySequence.toLiteral =
      "['it\\'s \\\\', '\"], [1,\n', [' 42 ', 'None\\''], -3, None, []]" ∧
    infer knottySequence.toLiteral = knottySequence := by
  have hinner : Exact (.sequence [.string " 42 ", .string "None'"]) := by
    refine .sequence (List.forall_mem_cons.mpr ⟨.string _, ?_⟩)
    exact List.forall_mem_singleton.mpr (.string _)
  have hexact : knottySequence.Exact := by
    apply Plain.sequence
    simp only [List.forall_mem_cons]
    exact ⟨.string _, .string _, hinner, .integer _, .null, .sequence (by simp), by simp⟩
  exact ⟨by decide, infer_toLiteral_of_exact hexact rfl⟩

end Value

namespace Value

/-! ## The values that literals denote -/

/-- A literal of the grammar denotes a value without mappings. -/
lemma Literal.plain {text : List Char} {value : Value} (h : Literal text value) :
    value.Plain fun _ => True := by
  induction h with
  | absence => exact .null
  | truth => exact .bool true
  | falsehood => exact .bool false
  | number h =>
    obtain ⟨n, rfl⟩ | ⟨x, rfl⟩ := h.value_cases
    · exact .integer n
    · exact .float trivial
  | quoted => exact .string _
  | empty => exact .sequence (by simp)
  | sequence _ _ _ _ _ ih => exact .sequence (List.forall_mem_map.mpr ih)
  | parenthesized _ ih => exact ih

/-- **A literal** denotes a value without mappings. -/
lemma plain_of_parseLiteral? {text : List Char} {value : Value}
    (h : parseLiteral? text = some value) : value.Plain fun _ => True :=
  (literal_of_parseLiteral? h).plain

/-! ## Dollar signs -/

/-- **A literal without dollar signs** denotes no text with a dollar sign.

**Proof sketch.** Induction on the literal. Only a quoted text and a literal between parentheses
denote a text, and no escape stands for a dollar sign. -/
lemma Literal.dollar_not_mem {text : List Char} {value : Value} (h : Literal text value)
    (hdollar : '$' ∉ text) {found : String} (hvalue : value = .string found) :
    '$' ∉ found.toList := by
  induction h with
  | absence => simp at hvalue
  | truth => simp at hvalue
  | falsehood => simp at hvalue
  | number h => obtain ⟨n, rfl⟩ | ⟨x, rfl⟩ := h.value_cases <;> simp at hvalue
  | quoted _ hbody =>
    obtain rfl := Value.string.inj hvalue
    rw [String.toList_ofList]
    have hescape : ∀ c, (c, '$') ∉ escapes := by simp [escapes]
    exact fun hmem => hdollar (by simp [hbody.mem_of_mem hescape hmem])
  | empty => simp at hvalue
  | sequence => simp at hvalue
  | @parenthesized item _ ih =>
    exact ih (fun hmem => hdollar (by simp [enclose, Item.written, hmem])) hvalue

/-- A text without dollar signs is not read as a text with one. -/
lemma dollar_not_mem_of_parseLiteral? {text : List Char} {found : String} (hdollar : '$' ∉ text)
    (h : parseLiteral? text = some (.string found)) : '$' ∉ found.toList :=
  (literal_of_parseLiteral? h).dollar_not_mem (fun hmem => hdollar (Text.mem_of_mem_trim hmem)) rfl

/-- **Inference introduces no dollar sign.** -/
lemma hasDollar_of_infer {text found : String} (htext : hasDollar text = false)
    (h : infer text = .string found) : hasDollar found = false := by
  have hdollar : '$' ∉ text.toList := by simpa [hasDollar] using htext
  rw [infer] at h
  cases hparse : parseLiteral? text.toList with
  | none =>
    rw [hparse, Option.getD_none] at h
    obtain rfl := Value.string.inj h
    exact htext
  | some value =>
    rw [hparse, Option.getD_some] at h
    simpa [hasDollar] using dollar_not_mem_of_parseLiteral? hdollar (hparse.trans (by rw [h]))

/-- The values that texts denote have no mappings inside. -/
lemma plain_infer (text : String) : (infer text).Plain fun _ => True := by
  rw [infer]
  cases hparse : parseLiteral? text.toList with
  | none => exact .string text
  | some value => exact plain_of_parseLiteral? hparse

end Value

end ConfigTree
