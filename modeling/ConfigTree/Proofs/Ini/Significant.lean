import Mathlib.Data.List.Forall2
import ConfigTree.Proofs.Ini.Numbering

set_option relaxedAutoImplicit false
set_option autoImplicit false

/-!
# The significant lines of an INI text

Only the lines that are neither blank nor comments matter, and of each of these only whether it is
indented and what it is when it is trimmed. Texts that agree in this denote the same mapping, or they
fail with the same error at the lines that correspond to each other. So comments and blank lines may
stand anywhere, also inside a value of several lines, and neither blanks at the ends of lines nor the
kind of line ends matter.

## Main definitions

* `ConfigTree.Ini.significant` — what matters of a text.
* `ConfigTree.Ini.ReadAlike` — the same mapping, or the same error at lines that correspond.
* `ConfigTree.Text.withLineFeeds` — a text with line feeds alone as its line ends.

## Main results

* `ConfigTree.Ini.exists_numbering` — the lines of a text are its significant lines with numbers.
* `ConfigTree.Ini.readAlike_of_significant` — texts with the same significant lines are read alike.
* `ConfigTree.Ini.significant_withLineFeeds` — line ends do not matter.
* `ConfigTree.Ini.significant_lines_decide` — what may change in a text.
-/

namespace ConfigTree

namespace Text

variable {text : List Char}

/-! ## Blanks at the ends of lines -/

/-- What is trimmed on the right alone is blanks at the end. -/
lemma exists_trimRight (text : List Char) :
    ∃ blanks, text = trimRight text ++ blanks ∧ ∀ c ∈ blanks, isBlank c = true :=
  ⟨text.rtakeWhile isBlank, (List.rdropWhile_append_rtakeWhile).symm,
    fun _ hc => List.mem_rtakeWhile_imp hc⟩

/-- Blanks at the end do not matter if both ends are trimmed. -/
lemma trim_trimRight (text : List Char) : trim (trimRight text) = trim text := by
  obtain ⟨blanks, htext, hblanks⟩ := exists_trimRight text
  rw [← trim_append_blanks hblanks, ← htext]

/-- Blanks at the end are not at the start, unless there is nothing else. -/
lemma head?_trimRight (hne : trim text ≠ []) : (trimRight text).head? = text.head? := by
  obtain ⟨blanks, htext, -⟩ := exists_trimRight text
  have hright : trimRight text ≠ [] := by
    intro hnil
    rw [← trim_trimRight, hnil] at hne
    exact hne rfl
  have hhead : (trimRight text ++ blanks).head? = (trimRight text).head? :=
    List.head?_append_of_ne_nil _ hright
  rw [← hhead, ← htext]

/-- A blank at the end does not matter if this end is trimmed. -/
lemma trimRight_concat_blank {c : Char} (hc : isBlank c = true) (text : List Char) :
    trimRight (text ++ [c]) = trimRight text :=
  List.rdropWhile_concat_pos _ _ _ hc

/-- A carriage return at the end is a blank. -/
lemma trimRight_dropReturn (line : List Char) : trimRight (dropReturn line) = trimRight line := by
  rcases List.eq_nil_or_concat' line with rfl | ⟨line, c, rfl⟩
  · rfl
  · rw [dropReturn, List.getLast?_concat, List.dropLast_concat]
    split
    · rename_i hc
      obtain rfl := Option.some.inj hc
      rw [trimRight_concat_blank (by decide)]
    · rfl

/-! ## Line ends -/

/-- The text without the carriage returns that stand just before line feeds. -/
def withLineFeeds : List Char → List Char
  | '\r' :: '\n' :: rest => '\n' :: withLineFeeds rest
  | c :: rest => c :: withLineFeeds rest
  | [] => []

/-- Carriage returns before line feeds are not in the lines, or stand at the ends of these. -/
lemma forall₂_linesFrom_withLineFeeds (text : List Char) :
    ∀ seen : List Char, List.Forall₂ (fun line line' => trimRight line = trimRight line')
      (linesFrom seen text) (linesFrom seen (withLineFeeds text)) := by
  induction text using withLineFeeds.induct with
  | case1 rest ih =>
    intro seen
    rw [withLineFeeds, linesFrom, linesFrom, linesFrom]
    · refine .cons ?_ (ih [])
      rw [trimRight_dropReturn, trimRight_dropReturn, List.reverse_cons,
        trimRight_concat_blank (by decide)]
    · decide
  | case2 c rest hc ih =>
    intro seen
    rw [withLineFeeds]
    · by_cases hlf : c = '\n'
      · subst hlf
        rw [linesFrom, linesFrom]
        exact .cons rfl (ih [])
      · rw [linesFrom, linesFrom]
        · exact ih (c :: seen)
        · exact hlf
        · exact hlf
    · exact hc
  | case3 =>
    intro seen
    exact List.forall₂_refl _

end Text

namespace Ini

open Text (isBlank trim trimRight)

/-! ## Significant lines -/

/-- Whether a raw line is neither blank nor a comment. -/
def isSignificant (raw : List Char) : Bool :=
  !(trim raw).isEmpty && !isComment (trim raw)

/-- What matters of a raw line: whether it starts with a blank, and its text without the blanks at
both ends. -/
def meaning (raw : List Char) : Bool × List Char :=
  (raw.head?.any isBlank, trim raw)

/-- What matters of a text: the meanings of its significant lines, in order. -/
def significant (text : String) : List (Bool × List Char) :=
  ((Text.lines text.toList).filter isSignificant).map meaning

/-- A significant line is its meaning with its number, and other lines are nothing. -/
lemma ofRaw?_eq (number : ℕ) (raw : List Char) : Line.ofRaw? number raw =
    if isSignificant raw then some ⟨number, (meaning raw).1, (meaning raw).2⟩ else none := by
  rw [Line.ofRaw?, isSignificant]
  cases (trim raw).isEmpty <;> cases isComment (trim raw) <;> rfl

/-- The lines of raw lines have the meanings of the significant ones. -/
lemma map_linesFrom (raws : List (List Char)) :
    ∀ number : ℕ, (linesFrom number raws).map (fun line => (line.indented, line.text)) =
      (raws.filter isSignificant).map meaning := by
  induction raws with
  | nil => exact fun _ => rfl
  | cons raw raws ih =>
    intro number
    rw [linesFrom, ofRaw?_eq, List.map_append, ih, List.filter_cons]
    cases isSignificant raw <;> rfl

/-- The lines with the given meanings, numbered from zero. -/
def numbered (meanings : List (Bool × List Char)) : List Line :=
  meanings.mapIdx fun i meaning => ⟨i, meaning.1, meaning.2⟩

/-- **The lines of a text** are its significant lines, with numbers of their own. -/
lemma exists_numbering (text : String) : ∃ f : ℕ → ℕ,
    linesOf text = (numbered (significant text)).map (Line.renumber f) ∧
      ∀ i < (significant text).length, ∃ line, (linesOf text)[i]? = some line ∧
        f i = line.number := by
  have hmeaning : significant text = (linesOf text).map fun line => (line.indented, line.text) :=
    (map_linesFrom _ 1).symm
  refine ⟨fun i => ((linesOf text)[i]?.map Line.number).getD 0, ?_, fun i hi => ?_⟩
  · rw [hmeaning]
    refine List.ext_getElem (by simp [numbered]) fun i hi _ => ?_
    simp [numbered, Line.renumber, hi]
  · rw [hmeaning, List.length_map] at hi
    exact ⟨(linesOf text)[i], by simp [hi], by simp [hi]⟩

/-! ## Texts that are read alike -/

/-- Both texts denote the same mapping, or both fail with the same error, each at its own line with
the same position among the significant lines. -/
inductive ReadAlike (text text' source : String) : Prop where
  /-- The texts denote the same mapping. -/
  | mapping {mapping : Mapping} (h : parse text source = .ok mapping)
      (h' : parse text' source = .ok mapping)
  /-- The texts fail with the same error. -/
  | error {e : Error} {i : ℕ} {line line' : Line} (hline : (linesOf text)[i]? = some line)
      (hline' : (linesOf text')[i]? = some line')
      (h : parse text source = .error (e.withLocation ⟨source, some line.number⟩))
      (h' : parse text' source = .error (e.withLocation ⟨source, some line'.number⟩))

/-- A failure of numbered lines is found at one of their numbers. -/
lemma line_lt_of_readLines {meanings : List (Bool × List Char)} {failure : Failure}
    (h : readLines (numbered meanings) = .error failure) : failure.line < meanings.length := by
  obtain ⟨before, line, after, hlines, hfails⟩ := exists_failsAt h
  have hmem : line ∈ numbered meanings := by simp [hlines]
  rw [numbered, List.mem_mapIdx] at hmem
  obtain ⟨i, hi, rfl⟩ := hmem
  rw [← hfails.number_eq]
  exact hi

/-- **Texts with the same significant lines** are read alike.

**Proof sketch.** The lines of both texts are the same lines with different numbers
(`exists_numbering`), and numbers are only kept for the failure (`readLines_renumber`). -/
lemma readAlike_of_significant {text text' : String} (h : significant text = significant text')
    (source : String) : ReadAlike text text' source := by
  obtain ⟨f, hlines, hf⟩ := exists_numbering text
  obtain ⟨f', hlines', hf'⟩ := exists_numbering text'
  rw [← h] at hlines' hf'
  have hread := congrArg readLines hlines
  have hread' := congrArg readLines hlines'
  rw [readLines_renumber] at hread hread'
  cases hall : readLines (numbered (significant text)) with
  | ok document =>
    rw [hall] at hread hread'
    exact .mapping (by rw [parse, read_eq_readLines, hread]; rfl)
      (by rw [parse, read_eq_readLines, hread']; rfl)
  | error failure =>
    rw [hall] at hread hread'
    obtain ⟨line, hline, hnumber⟩ := hf _ (line_lt_of_readLines hall)
    obtain ⟨line', hline', hnumber'⟩ := hf' _ (line_lt_of_readLines hall)
    refine .error hline hline' (e := failure.fault.toError) ?_ ?_
    · rw [← hnumber]
      exact parse_eq_error_iff.mpr ⟨_, hread, rfl⟩
    · rw [← hnumber']
      exact parse_eq_error_iff.mpr ⟨_, hread', rfl⟩

/-! ## What may change in a text -/

/-- Lines that differ in blanks at their ends have the same meaning. -/
lemma isSignificant_congr {raw raw' : List Char} (h : trimRight raw = trimRight raw') :
    isSignificant raw = isSignificant raw' ∧ (isSignificant raw = true → meaning raw = meaning raw') := by
  have htrim : trim raw = trim raw' := by
    rw [← Text.trim_trimRight raw, h, Text.trim_trimRight]
  refine ⟨by rw [isSignificant, isSignificant, htrim], fun hraw => ?_⟩
  have hne : trim raw ≠ [] := by
    intro hnil
    simp [isSignificant, hnil] at hraw
  rw [meaning, meaning, ← Text.head?_trimRight hne, h, Text.head?_trimRight (htrim ▸ hne), htrim]

/-- Blanks at the ends of lines do not matter. -/
lemma significant_of_trimRight {text text' : String}
    (h : List.Forall₂ (fun raw raw' => trimRight raw = trimRight raw') (Text.lines text.toList)
      (Text.lines text'.toList)) : significant text = significant text' := by
  rw [significant, significant]
  generalize Text.lines text.toList = raws at h ⊢
  generalize Text.lines text'.toList = raws' at h ⊢
  induction h with
  | nil => rfl
  | @cons raw raw' raws raws' hraw _ ih =>
    obtain ⟨hsame, hmeaning⟩ := isSignificant_congr hraw
    rw [List.filter_cons, List.filter_cons, ← hsame]
    cases hsignificant : isSignificant raw with
    | false => exact ih
    | true => simp only [if_true, List.map_cons, ih, hmeaning hsignificant]

/-- Line ends do not matter. -/
lemma significant_withLineFeeds (text : String) :
    significant (String.ofList (Text.withLineFeeds text.toList)) = significant text := by
  refine (significant_of_trimRight ?_).symm
  rw [String.toList_ofList]
  exact Text.forall₂_linesFrom_withLineFeeds text.toList []

/-- **Only the significant lines of a text matter.** Texts that agree in the meanings of their
significant lines denote the same mapping, or they fail with the same error at lines that correspond
to each other. In particular these texts are read alike: a text with and without a blank line or a
comment at any place, texts whose lines differ only in the blanks at their ends, and texts that
differ only in the carriage returns before their line feeds.

**Proof sketch.** The lines of texts with the same significant lines differ in their numbers only
(`readAlike_of_significant`). Blank lines and comments are not significant, and blanks at the ends of
lines, among them carriage returns, are not part of their meaning. -/
theorem significant_lines_decide (text text' source : String) :
    (significant text = significant text' → ReadAlike text text' source) ∧
    (∀ before raw after, isSignificant raw = false → Text.lines text.toList = before ++ after →
      Text.lines text'.toList = before ++ raw :: after → ReadAlike text text' source) ∧
    (List.Forall₂ (fun raw raw' => trimRight raw = trimRight raw') (Text.lines text.toList)
      (Text.lines text'.toList) → ReadAlike text text' source) ∧
    (Text.withLineFeeds text.toList = Text.withLineFeeds text'.toList →
      ReadAlike text text' source) := by
  refine ⟨fun h => readAlike_of_significant h source, ?_, ?_, fun h => ?_⟩
  · intro before raw after hraw htext htext'
    refine readAlike_of_significant ?_ source
    simp [significant, htext, htext', hraw]
  · exact fun h => readAlike_of_significant (significant_of_trimRight h) source
  · refine readAlike_of_significant ?_ source
    rw [← significant_withLineFeeds text, h, significant_withLineFeeds]

/-- A comment inside a value of several lines, a blank line and other line ends change neither the
value nor the error about the key that stands there twice. -/
theorem significant_lines_decide_repeatedKey :
    significant "[s]\na = 1\n  2\na = 3\n" =
        significant "; head\r\n[s]  \r\na = 1\r\n# note\r\n\r\n  2\r\na = 3" ∧
      ReadAlike "[s]\na = 1\n  2\na = 3\n"
        "; head\r\n[s]  \r\na = 1\r\n# note\r\n\r\n  2\r\na = 3" "app.ini" := by
  have h : significant "[s]\na = 1\n  2\na = 3\n" =
      significant "; head\r\n[s]  \r\na = 1\r\n# note\r\n\r\n  2\r\na = 3" := by
    decide
  exact ⟨h, (significant_lines_decide _ _ "app.ini").1 h⟩

end Ini

end ConfigTree
