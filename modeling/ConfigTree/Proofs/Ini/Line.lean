import Mathlib.Data.List.Basic
import ConfigTree.Ini.Document
import ConfigTree.Proofs.Text.Trim

set_option relaxedAutoImplicit false
set_option autoImplicit false

/-!
# Lines and their meaning

A line has no line feed, and lines that are ended one by one are the lines of the text. Of these, the
lines that mean something are trimmed, not blank and no comments, and their numbers increase.

## Main definitions

* `ConfigTree.Ini.Line.Proper` — what the text of a line that means something is like.

## Main results

* `ConfigTree.Text.lines_ended` — the lines of a text that is made of lines.
* `ConfigTree.Ini.proper_of_mem_linesOf` — every line that means something is proper.
* `ConfigTree.Ini.pairwise_number_linesOf` — the numbers of lines increase.
-/

namespace ConfigTree

namespace Text

/-! ## The lines of a text -/

variable {seen line text : List Char}

/-- The characters of a line without its carriage return are characters of the line. -/
lemma mem_of_mem_dropReturn {c : Char} (hc : c ∈ dropReturn line) : c ∈ line := by
  unfold dropReturn at hc
  split at hc
  · exact List.dropLast_subset _ hc
  · exact hc

/-- A line has no line feed. -/
lemma lf_not_mem_of_mem_linesFrom (hseen : '\n' ∉ seen) :
    ∀ line ∈ linesFrom seen text, '\n' ∉ line := by
  induction text generalizing seen with
  | nil =>
    intro line hline
    rw [linesFrom] at hline
    split at hline
    · simp at hline
    · rw [List.mem_singleton.mp hline]
      simpa using hseen
  | cons c rest ih =>
    by_cases hc : c = '\n'
    · subst hc
      rw [linesFrom, List.forall_mem_cons]
      exact ⟨fun h => hseen (by simpa using mem_of_mem_dropReturn h), ih (by simp)⟩
    · rw [linesFrom]
      · exact ih (by simpa using ⟨Ne.symm hc, hseen⟩)
      · exact hc

/-- No line of a text has a line feed. -/
lemma lf_not_mem_of_mem_lines : ∀ line ∈ lines text, '\n' ∉ line :=
  lf_not_mem_of_mem_linesFrom (by simp)

/-- The current line ends at the first line feed. -/
lemma linesFrom_append_lf (hline : '\n' ∉ line) (rest : List Char) :
    linesFrom seen (line ++ '\n' :: rest) =
      dropReturn (seen.reverse ++ line) :: linesFrom [] rest := by
  induction line generalizing seen with
  | nil => simp [linesFrom]
  | cons c line ih =>
    obtain ⟨hc, hline⟩ : '\n' ≠ c ∧ '\n' ∉ line := by simpa using hline
    rw [List.cons_append, linesFrom, ih hline]
    · simp
    · exact Ne.symm hc

/-- **Lines that are ended one by one** are the lines of the text, if none of them has a line feed or
ends in a carriage return.

**Proof sketch.** Induction on the lines; the first one ends at the first line feed. -/
lemma lines_ended {raws : List (List Char)}
    (h : ∀ raw ∈ raws, '\n' ∉ raw ∧ raw.getLast? ≠ some '\r') :
    lines (raws.flatMap fun raw => raw ++ ['\n']) = raws := by
  induction raws with
  | nil => rfl
  | cons raw raws ih =>
    obtain ⟨⟨hlf, hcr⟩, hraws⟩ := List.forall_mem_cons.mp h
    have ih := ih hraws
    rw [lines] at ih ⊢
    rw [List.flatMap_cons, List.append_assoc, List.singleton_append, linesFrom_append_lf hlf, ih]
    simp [dropReturn, hcr]

end Text

namespace Ini

open Text (isBlank trim)

/-! ## The lines that mean something -/

/-- The text of a line that means something: it is trimmed, not empty and no comment, and it has no
line feed. -/
structure Line.Proper (text : List Char) : Prop where
  /-- The text is not empty. -/
  ne_nil : text ≠ []
  /-- It has no blanks at its ends. -/
  trim_eq : trim text = text
  /-- It is no comment. -/
  not_comment : isComment text = false
  /-- It stands in one line. -/
  lf_not_mem : '\n' ∉ text

variable {number : ℕ} {raw : List Char} {line : Line}

/-- A raw line means something exactly if it is neither blank nor a comment. -/
lemma Line.ofRaw?_eq_some_iff :
    Line.ofRaw? number raw = some line ↔
      trim raw ≠ [] ∧ isComment (trim raw) = false ∧
        line = ⟨number, raw.head?.any isBlank, trim raw⟩ := by
  simp only [Line.ofRaw?, Bool.or_eq_true, List.isEmpty_iff]
  split
  · rename_i h
    rcases h with h | h <;> simp [h]
  · rename_i h
    rw [not_or, Bool.not_eq_true] at h
    simp [h, eq_comm]

/-- The lines of raw lines after other raw lines, with the numbers that follow. -/
lemma linesFrom_append (raws more : List (List Char)) :
    ∀ number : ℕ, linesFrom number (raws ++ more) =
      linesFrom number raws ++ linesFrom (number + raws.length) more := by
  induction raws with
  | nil => simp [linesFrom]
  | cons raw raws ih =>
    intro number
    rw [List.cons_append, linesFrom, linesFrom, ih, List.append_assoc, List.length_cons,
      Nat.add_right_comm, Nat.add_assoc]

/-- A raw line that means something is the first line of itself and further ones. -/
lemma linesFrom_cons_of_some (h : Line.ofRaw? number raw = some line) (raws : List (List Char)) :
    linesFrom number (raw :: raws) = line :: linesFrom (number + 1) raws := by
  rw [linesFrom, h]
  rfl

/-- A line that means something comes from a raw line at its number or after. -/
lemma exists_of_mem_linesFrom {raws : List (List Char)} :
    ∀ {number : ℕ}, line ∈ linesFrom number raws →
      number ≤ line.number ∧ ∃ raw ∈ raws, Line.ofRaw? line.number raw = some line := by
  induction raws with
  | nil => simp [linesFrom]
  | cons raw raws ih =>
    intro number hline
    rw [linesFrom, List.mem_append, Option.mem_toList] at hline
    rcases hline with hline | hline
    · obtain ⟨-, -, rfl⟩ := Line.ofRaw?_eq_some_iff.mp hline
      exact ⟨le_rfl, raw, List.mem_cons_self, hline⟩
    · obtain ⟨hnumber, raw', hmem, hraw⟩ := ih hline
      exact ⟨by omega, raw', List.mem_cons_of_mem _ hmem, hraw⟩

/-- **Every line that means something is proper.** -/
lemma proper_of_mem_linesOf {text : String} (hline : line ∈ linesOf text) :
    Line.Proper line.text := by
  obtain ⟨-, raw, hmem, hraw⟩ := exists_of_mem_linesFrom hline
  obtain ⟨hne, hcomment, hline⟩ := Line.ofRaw?_eq_some_iff.mp hraw
  rw [hline]
  refine ⟨hne, Text.trim_trim raw, hcomment, fun hlf => ?_⟩
  exact Text.lf_not_mem_of_mem_lines raw hmem (Text.mem_of_mem_trim hlf)

/-- **The numbers of lines increase.** -/
lemma pairwise_number_linesOf (text : String) :
    ((linesOf text).map Line.number).Pairwise (· < ·) := by
  rw [List.pairwise_map, linesOf]
  generalize Text.lines text.toList = raws
  generalize (1 : ℕ) = number
  induction raws generalizing number with
  | nil => simp [linesFrom]
  | cons raw raws ih =>
    rw [linesFrom, List.pairwise_append]
    refine ⟨?_, ih (number + 1), fun line hline later hlater => ?_⟩
    · cases Line.ofRaw? number raw <;> simp
    · obtain ⟨-, -, rfl⟩ := Line.ofRaw?_eq_some_iff.mp (Option.mem_toList.mp hline)
      exact (exists_of_mem_linesFrom hlater).1

end Ini

end ConfigTree
