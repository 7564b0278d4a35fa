import Mathlib.Data.List.DropRight
import ConfigTree.Text.Basic

set_option relaxedAutoImplicit false
set_option autoImplicit false

/-!
# Trimming

Trimming removes blanks at the ends of a text and nothing else.

## Main results

* `ConfigTree.Text.trim_eq_self` — a text without blanks at its ends stays as it is.
* `ConfigTree.Text.trim_trim` — a trimmed text stays as it is.
* `ConfigTree.Text.trim_blank_cons`, `ConfigTree.Text.trim_concat_blank` — a blank before or after a
  text is removed.
* `ConfigTree.Text.exists_trim` — a text is its trimmed form with blanks before and after it.
* `ConfigTree.Text.mem_of_mem_trim` — all characters of the trimmed text are from the text.
-/

namespace ConfigTree.Text

variable {text : List Char}

/-- Trimming drops the blanks at the start, and then those at the end. -/
lemma trim_eq (text : List Char) : trim text = (text.dropWhile isBlank).rdropWhile isBlank := rfl

/-- The characters of a trimmed text are characters of the text. -/
lemma mem_of_mem_trim {c : Char} (hc : c ∈ trim text) : c ∈ text := by
  rw [trim_eq] at hc
  exact (List.dropWhile_suffix _).subset ((List.rdropWhile_prefix _ _).subset hc)

/-- **A text without blanks at its ends** is trimmed already. -/
lemma trim_eq_self (hne : text ≠ []) (hhead : isBlank (text.head hne) = false)
    (hlast : isBlank (text.getLast hne) = false) : trim text = text := by
  have hdrop : text.dropWhile isBlank = text := by
    rw [List.dropWhile_eq_self_iff]
    intro hlength
    rw [← List.head_eq_getElem_zero hne, hhead]
    exact Bool.false_ne_true
  rw [trim_eq, hdrop, List.rdropWhile_eq_self_iff]
  intro hne'
  rw [hlast]
  exact Bool.false_ne_true

/-- A trimmed text does not start with a blank. -/
lemma isBlank_head_trim (hne : trim text ≠ []) : isBlank ((trim text).head hne) = false := by
  have hstart : trim text <+: text.dropWhile isBlank := List.rdropWhile_prefix _ _
  rw [hstart.head hne]
  simpa using List.head_dropWhile_not isBlank (hstart.ne_nil hne)

/-- A trimmed text does not end with a blank. -/
lemma isBlank_getLast_trim (hne : trim text ≠ []) :
    isBlank ((trim text).getLast hne) = false :=
  Bool.not_eq_true _ ▸ List.rdropWhile_last_not isBlank (text.dropWhile isBlank) hne

/-- The first character of a trimmed text is no blank, if there is one. -/
lemma isBlank_of_head?_trim {c : Char} (hc : (trim text).head? = some c) : isBlank c = false := by
  have hne : trim text ≠ [] := by
    rintro hnil
    simp [hnil] at hc
  rw [← (List.head_eq_iff_head?_eq_some hne).mpr hc]
  exact isBlank_head_trim hne

/-- The last character of a trimmed text is no blank, if there is one. -/
lemma isBlank_of_getLast?_trim {c : Char} (hc : (trim text).getLast? = some c) :
    isBlank c = false := by
  have hne : trim text ≠ [] := by
    rintro hnil
    simp [hnil] at hc
  rw [← (List.getLast_eq_iff_getLast?_eq_some hne).mpr hc]
  exact isBlank_getLast_trim hne

/-- **A trimmed text** stays as it is. -/
lemma trim_trim (text : List Char) : trim (trim text) = trim text := by
  by_cases hne : trim text = []
  · rw [hne]
    rfl
  · exact trim_eq_self hne (isBlank_head_trim hne) (isBlank_getLast_trim hne)

/-- The text between two characters that are not blank is trimmed already. -/
lemma trim_between {first last : Char} (hfirst : isBlank first = false)
    (hlast : isBlank last = false) (inner : List Char) :
    trim (first :: inner ++ [last]) = first :: inner ++ [last] := by
  refine trim_eq_self (by simp) ?_ ?_
  · simpa using hfirst
  · simpa using hlast

/-- A text without blanks stays as it is. -/
lemma trim_of_forall (h : ∀ c ∈ text, isBlank c = false) : trim text = text := by
  by_cases hne : text = []
  · rw [hne]
    rfl
  · exact trim_eq_self hne (h _ (List.head_mem hne)) (h _ (List.getLast_mem hne))

/-- A blank at the start is trimmed. -/
lemma trim_blank_cons {c : Char} (hc : isBlank c = true) : trim (c :: text) = trim text := by
  rw [trim_eq, trim_eq, List.dropWhile_cons_of_pos hc]

/-- All blanks at the start are trimmed. -/
lemma trim_blanks_append {blanks : List Char} (h : ∀ c ∈ blanks, isBlank c = true) :
    trim (blanks ++ text) = trim text := by
  induction blanks with
  | nil => rfl
  | cons c rest ih =>
    obtain ⟨hc, hrest⟩ := List.forall_mem_cons.mp h
    rw [List.cons_append, trim_blank_cons hc, ih hrest]

/-- A blank at the end is trimmed. -/
lemma trim_concat_blank {c : Char} (hc : isBlank c = true) : trim (text ++ [c]) = trim text := by
  rw [trim_eq, trim_eq, List.dropWhile_append]
  split
  · rename_i hempty
    simp [hc, List.isEmpty_iff.mp hempty]
  · exact List.rdropWhile_concat_pos _ _ _ hc

/-- All blanks at the end are trimmed. -/
lemma trim_append_blanks {blanks : List Char} (h : ∀ c ∈ blanks, isBlank c = true) :
    trim (text ++ blanks) = trim text := by
  induction blanks using List.reverseRecOn with
  | nil => rw [List.append_nil]
  | append_singleton rest c ih =>
    obtain ⟨hrest, hc⟩ := List.forall_mem_append.mp h
    rw [← List.append_assoc, trim_concat_blank (hc c List.mem_cons_self), ih hrest]

/-- **Trimming** takes nothing but blanks away, which stand before and after what remains. -/
lemma exists_trim (text : List Char) : ∃ before after, text = before ++ trim text ++ after ∧
    (∀ c ∈ before, isBlank c = true) ∧ ∀ c ∈ after, isBlank c = true := by
  refine ⟨text.takeWhile isBlank, (text.dropWhile isBlank).rtakeWhile isBlank, ?_, ?_, ?_⟩
  · rw [trim_eq, List.append_assoc, List.rdropWhile_append_rtakeWhile,
      List.takeWhile_append_dropWhile]
  · exact List.all_eq_true.mp List.all_takeWhile
  · exact fun c hc => List.mem_rtakeWhile_imp hc

/-- Only blanks are trimmed away as a whole. -/
lemma trim_eq_nil_iff : trim text = [] ↔ ∀ c ∈ text, isBlank c = true := by
  constructor
  · intro hnil
    obtain ⟨before, after, htext, hbefore, hafter⟩ := exists_trim text
    rw [htext, hnil, List.append_nil]
    exact List.forall_mem_append.mpr ⟨hbefore, hafter⟩
  · intro h
    have htrim : trim ([] ++ text) = trim [] := trim_append_blanks h
    exact htrim

/-- A text with a character that is not blank is not trimmed away. -/
lemma trim_ne_nil {c : Char} (hc : c ∈ text) (hblank : isBlank c = false) : trim text ≠ [] := by
  intro hnil
  simp [trim_eq_nil_iff.mp hnil c hc] at hblank

/-! ## The ends of a trimmed text -/

/-- A first character that is no blank stays. -/
lemma exists_trim_cons {c : Char} (hc : isBlank c = false) (text : List Char) :
    ∃ inner, trim (c :: text) = c :: inner := by
  have hstart : trim (c :: text) <+: c :: text := by
    rw [trim_eq, List.dropWhile_cons_of_neg (by simp [hc])]
    exact List.rdropWhile_prefix _ _
  have hne : trim (c :: text) ≠ [] := by
    rw [trim_eq, List.dropWhile_cons_of_neg (by simp [hc]), ne_eq, List.rdropWhile_eq_nil_iff]
    exact fun h => absurd (h c List.mem_cons_self) (by simp [hc])
  obtain ⟨first, inner, htrim⟩ := List.exists_cons_of_ne_nil hne
  rw [htrim, List.cons_prefix_cons] at hstart
  exact ⟨inner, by rw [htrim, hstart.1]⟩

/-- A last character that is no blank stays. -/
lemma exists_trim_concat {c : Char} (hc : isBlank c = false) (text : List Char) :
    ∃ inner, trim (text ++ [c]) = inner ++ [c] := by
  rw [trim_eq, List.dropWhile_append]
  split
  · exact ⟨[], by simp [hc, List.rdropWhile_singleton]⟩
  · exact ⟨_, List.rdropWhile_concat_neg _ _ _ (by simp [hc])⟩

/-- The first part of a trimmed text keeps its first character when it is trimmed. -/
lemma head?_trim_of_append {left right : List Char} (h : trim (left ++ right) = left ++ right)
    (hne : trim left ≠ []) : (trim left).head? = (left ++ right).head? := by
  cases left with
  | nil => exact absurd rfl hne
  | cons c left =>
    have hc : isBlank c = false := isBlank_of_head?_trim (by rw [h]; rfl)
    obtain ⟨inner, htrim⟩ := exists_trim_cons hc left
    simp [htrim]

/-- The last part of a trimmed text keeps its last character when it is trimmed. -/
lemma getLast?_trim_of_append {left right : List Char} (h : trim (left ++ right) = left ++ right)
    (hne : trim right ≠ []) : (trim right).getLast? = (left ++ right).getLast? := by
  rcases List.eq_nil_or_concat' right with rfl | ⟨right, c, rfl⟩
  · exact absurd rfl hne
  · have hc : isBlank c = false := isBlank_of_getLast?_trim (by rw [h]; simp)
    obtain ⟨inner, htrim⟩ := exists_trim_concat hc right
    simp [htrim]

/-! ## Characters that are not blank -/

/-- The visible characters of ASCII are no blanks. -/
lemma hasCode_blankTable : ∀ n < 127, 33 ≤ n → blankTable.hasCode n = false := by
  decide

/-- A visible character of the first 127 ones is not blank. -/
lemma isBlank_of_visible {c : Char} (hlo : 33 ≤ c.toNat) (hhi : c.toNat < 127) :
    isBlank c = false :=
  hasCode_blankTable c.toNat hhi hlo

end ConfigTree.Text
