import ConfigTree.Proofs.Ini.Placement
import ConfigTree.Proofs.Text.Pieces

set_option relaxedAutoImplicit false
set_option autoImplicit false

/-!
# Well-formed INI documents

Not every document is denoted by a text: names and keys are trimmed and have no delimiters, and no
line of a value could be taken for a comment or, together with its key, for a header. This file shows
that a text denotes well-formed documents only.

## Main definitions

* `ConfigTree.Ini.IsName`, `ConfigTree.Ini.IsKey`, `ConfigTree.Ini.IsValue` — what names, keys and
  values are like.
* `ConfigTree.Ini.IsOption` — what a key and its value are like together.
* `ConfigTree.Table.Valid` — a table with distinct keys and with entries of a kind.
* `ConfigTree.Ini.Document.WellFormed` — a document of such names, keys and values.

## Main results

* `ConfigTree.Ini.optionOf_eq_ok_iff` — the key and the value of a line.
* `ConfigTree.Ini.isOption_of_line` — an option that stands in proper lines.
* `ConfigTree.Ini.Document.wellFormed_of_read` — a text denotes a well-formed document.
-/

namespace ConfigTree

/-- The keys of the table are distinct, and each of its entries is as it should be. -/
structure Table.Valid {α : Type} (good : String → α → Prop) (table : Table α) : Prop where
  /-- The keys are distinct. -/
  nodup : table.keys.Nodup
  /-- Each key and its content are as they should be. -/
  entries : ∀ key content, (key, content) ∈ table → good key content

namespace Ini

open Text (trim pieces)

/-! ## Well-formed documents -/

/-- A text that may be the name of a section or of a subsection. -/
structure IsName (name : String) : Prop where
  /-- The name is not empty. -/
  ne_empty : name ≠ ""
  /-- It has no blanks at its ends. -/
  trim_eq : trim name.toList = name.toList
  /-- The mark between a section and a subsection does not occur in it. -/
  at_not_mem : '@' ∉ name.toList
  /-- It stands in one line. -/
  lf_not_mem : '\n' ∉ name.toList

/-- A text that may be the key of an option. -/
structure IsKey (key : String) : Prop where
  /-- The key is not empty. -/
  ne_empty : key ≠ ""
  /-- It has no blanks at its ends. -/
  trim_eq : trim key.toList = key.toList
  /-- The marks between a key and its value do not occur in it. -/
  not_delimiter : ∀ c ∈ key.toList, isDelimiter c = false
  /-- It stands in one line. -/
  lf_not_mem : '\n' ∉ key.toList
  /-- It does not look like a comment. -/
  not_comment : isComment key.toList = false

/-- The part of a value before its first line feed. -/
def firstLine (value : String) : List Char :=
  (pieces '\n' value.toList).headD []

/-- The parts of a value after its line feeds. -/
def furtherLines (value : String) : List (List Char) :=
  (pieces '\n' value.toList).tail

/-- The lines of a value are the first one and the further ones. -/
lemma pieces_value (value : String) :
    pieces '\n' value.toList = firstLine value :: furtherLines value := by
  obtain ⟨first, more, hpieces⟩ :=
    List.exists_cons_of_ne_nil (Text.pieces_ne_nil '\n' value.toList)
  rw [firstLine, furtherLines, hpieces, List.headD_cons, List.tail_cons]

/-- A text that may be the value of an option: its lines are trimmed, and all but the first one are
neither empty nor comments. -/
structure IsValue (value : String) : Prop where
  /-- The first line has no blanks at its ends. -/
  trim_firstLine : trim (firstLine value) = firstLine value
  /-- The further lines have none either, and they are neither empty nor comments. -/
  furtherLines : ∀ line ∈ furtherLines value, line ≠ [] ∧ trim line = line ∧ isComment line = false

/-- A key and a value that may belong together: they do not look like a header. -/
structure IsOption (key value : String) : Prop where
  /-- The key may be one. -/
  isKey : IsKey key
  /-- The value may be one. -/
  isValue : IsValue value
  /-- A key that starts as a header does has no value whose first line ends as a header does. -/
  not_header : key.toList.head? = some '[' → (firstLine value).getLast? ≠ some ']'

/-- The subsections of a section: there is one, each has a name, and so on down to the options. -/
structure IsSection (subsections : Table (Table String)) : Prop where
  /-- There is a subsection. -/
  ne_nil : subsections ≠ []
  /-- The subsections have distinct names, and their options are distinct and as they should be. -/
  valid : subsections.Valid fun name options => IsName name ∧ options.Valid IsOption

/-- A document of sections with names. -/
def Document.WellFormed (document : Document) : Prop :=
  document.Valid fun name subsections => IsName name ∧ IsSection subsections

/-! ## Options -/

variable {text : List Char} {key first : String} {more : List Line}

/-- **The key and the value of a line** are what stands before and after its first delimiter. -/
lemma optionOf_eq_ok_iff :
    optionOf text = .ok (key, first) ↔
      ∃ left c right, text = left ++ c :: right ∧ (∀ d ∈ left, isDelimiter d = false) ∧
        isDelimiter c = true ∧ trim left ≠ [] ∧ key = String.ofList (trim left) ∧
        first = String.ofList (trim right) := by
  constructor
  · intro h
    rw [optionOf] at h
    split at h
    · cases h
    · rename_i c right hdrop
      dsimp only at h
      have hsplit := List.takeWhile_append_dropWhile (p := fun c => !isDelimiter c) (l := text)
      have hhead := List.head?_dropWhile_not (fun c => !isDelimiter c) text
      rw [hdrop] at hsplit hhead
      split at h
      · cases h
      · rename_i hne
        cases h
        refine ⟨_, c, right, hsplit.symm, fun d hd => ?_, by simpa using hhead,
          by simpa using hne, rfl, rfl⟩
        simpa using List.all_eq_true.mp List.all_takeWhile d hd
  · rintro ⟨left, c, right, rfl, hleft, hc, hne, rfl, rfl⟩
    have hpass : ∀ d ∈ left, (!isDelimiter d) = true := by simpa using hleft
    rw [optionOf, List.dropWhile_append_of_pos hpass, List.takeWhile_append_of_pos hpass]
    simp [hc, hne]

/-- A line is no header unless it starts with one bracket and ends with the other one. -/
lemma headerOf?_eq_none_iff :
    headerOf? text = none ↔ (text.head? = some '[' → text.getLast? ≠ some ']') := by
  rcases text with _ | ⟨c, rest⟩
  · simp [headerOf?]
  · by_cases hc : c = '['
    · subst hc
      rcases List.eq_nil_or_concat' rest with rfl | ⟨inner, last, rfl⟩
      · simp [headerOf?]
      · simp [headerOf?, List.getLast?_cons]
    · unfold headerOf?
      split
      · simp_all
      · simp [hc]

/-- The header of a line stands between its brackets. -/
lemma headerOf?_eq_some_iff {name : List Char} :
    headerOf? text = some name ↔ ∃ inner, text = '[' :: (inner ++ [']']) ∧ name = trim inner := by
  constructor
  · intro h
    unfold headerOf? at h
    split at h
    · rename_i rest
      rcases List.eq_nil_or_concat' rest with rfl | ⟨inner, last, rfl⟩
      · simp at h
      · simp only [List.getLast?_concat, Option.some.injEq, List.dropLast_concat,
          Option.ite_none_right_eq_some] at h
        obtain ⟨rfl, rfl⟩ := h
        exact ⟨inner, rfl, rfl⟩
    · cases h
  · rintro ⟨inner, rfl, rfl⟩
    simp [headerOf?]

/-- The characters of a continued value, with a line feed before each further line. -/
lemma toList_continued (first : String) (more : List Line) :
    (continued first more).toList =
      first.toList ++ (more.map Line.text).flatMap fun line => '\n' :: line := by
  induction more generalizing first with
  | nil => simp [continued]
  | cons line more ih =>
    have hcons : continued first (line :: more) =
        continued (first ++ "\n" ++ String.ofList line.text) more := rfl
    simp [hcons, ih]

/-- The lines of a value are those that it was put together from. -/
lemma pieces_continued (hfirst : '\n' ∉ first.toList) (hmore : ∀ line ∈ more, '\n' ∉ line.text) :
    pieces '\n' (continued first more).toList = first.toList :: more.map Line.text := by
  rw [Text.pieces_eq_cons_iff, toList_continued]
  refine ⟨List.forall_mem_cons.mpr ⟨hfirst, ?_⟩, rfl⟩
  simpa using hmore

/-- **An option that stands in proper lines**: its first line has a key and is no header. -/
lemma isOption_of_line (htext : Line.Proper text) (hheader : headerOf? text = none)
    (hoption : optionOf text = .ok (key, first)) (hmore : ∀ line ∈ more, Line.Proper line.text) :
    IsOption key (continued first more) := by
  obtain ⟨left, c, right, rfl, hleft, hc, hne, rfl, rfl⟩ := optionOf_eq_ok_iff.mp hoption
  have hlf : '\n' ∉ left ∧ '\n' ∉ right := by
    have := htext.lf_not_mem
    simp only [List.mem_append, List.mem_cons, not_or] at this
    exact ⟨this.1, this.2.2⟩
  have hhead : (trim left).head? = (left ++ c :: right).head? :=
    Text.head?_trim_of_append htext.trim_eq hne
  have hpieces : pieces '\n' (continued (String.ofList (trim right)) more).toList =
      trim right :: more.map Line.text := by
    rw [pieces_continued _ fun line hline => (hmore line hline).lf_not_mem, String.toList_ofList]
    rw [String.toList_ofList]
    exact fun h => hlf.2 (Text.mem_of_mem_trim h)
  refine ⟨⟨?_, ?_, ?_, ?_, ?_⟩, ⟨?_, ?_⟩, ?_⟩
  · simpa using hne
  · rw [String.toList_ofList, Text.trim_trim]
  · rw [String.toList_ofList]
    exact fun d hd => hleft d (Text.mem_of_mem_trim hd)
  · rw [String.toList_ofList]
    exact fun h => hlf.1 (Text.mem_of_mem_trim h)
  · rw [String.toList_ofList, isComment, hhead]
    exact htext.not_comment
  · rw [firstLine, hpieces, List.headD_cons, Text.trim_trim]
  · rw [furtherLines, hpieces, List.tail_cons]
    intro line hline
    obtain ⟨line, hmem, rfl⟩ := List.mem_map.mp hline
    exact ⟨(hmore line hmem).ne_nil, (hmore line hmem).trim_eq, (hmore line hmem).not_comment⟩
  · -- a header starts with its bracket and ends with the other one, as the whole line would
    rw [String.toList_ofList, hhead, firstLine, hpieces, List.headD_cons]
    intro hopen hclose
    have hlast : (trim right).getLast? = (left ++ [c] ++ right).getLast? :=
      Text.getLast?_trim_of_append (by rw [← List.append_cons, htext.trim_eq])
        (by rintro hnil; simp [hnil] at hclose)
    rw [← List.append_cons] at hlast
    exact headerOf?_eq_none_iff.mp hheader hopen (hlast ▸ hclose)

/-- The options that proper lines make up. -/
lemma Below.isOption {lines : List Line} {options : Table String} (h : Below lines options)
    (hlines : ∀ line ∈ lines, Line.Proper line.text) :
    ∀ key value, (key, value) ∈ options → IsOption key value := by
  induction h with
  | nil => simp
  | @option line more rest key first options hheader hoption _ _ _ ih =>
    obtain ⟨hline, hlines⟩ := List.forall_mem_cons.mp hlines
    obtain ⟨hmore, hrest⟩ := List.forall_mem_append.mp hlines
    intro k value hmem
    rcases List.mem_cons.mp hmem with heq | hmem
    · cases heq
      exact isOption_of_line hline hheader hoption hmore
    · exact ih hrest k value hmem

/-- The blocks that proper lines make up. -/
lemma Layout.valid_options {lines : List Line} {blocks : List Block} (h : Layout lines blocks)
    (hlines : ∀ line ∈ lines, Line.Proper line.text) :
    ∀ block ∈ blocks, '\n' ∉ block.header.toList ∧ block.options.Valid IsOption := by
  induction h with
  | nil => simp
  | @block line body rest name options blocks hheader _ hbody hkeys _ _ _ ih =>
    obtain ⟨hline, hlines⟩ := List.forall_mem_cons.mp hlines
    obtain ⟨hlines, hrest⟩ := List.forall_mem_append.mp hlines
    refine List.forall_mem_cons.mpr ⟨⟨?_, hkeys, hbody.isOption hlines⟩, ih hrest⟩
    obtain ⟨inner, htext, rfl⟩ := headerOf?_eq_some_iff.mp hheader
    rw [String.toList_ofList]
    intro hlf
    apply hline.lf_not_mem
    simp [htext, Text.mem_of_mem_trim hlf]

/-! ## Names -/

/-- The names in a header without line feeds are well-formed. -/
lemma isName_of_mem_headerNames {header name : String} (hlf : '\n' ∉ header.toList)
    (hname : name ∈ headerNames header) : IsName name := by
  simp only [headerNames, List.mem_map, List.mem_filter, Bool.not_eq_true',
    List.isEmpty_eq_false_iff] at hname
  obtain ⟨_, ⟨⟨piece, hpiece, rfl⟩, hne⟩, rfl⟩ := hname
  constructor
  · simpa using hne
  · rw [String.toList_ofList, Text.trim_trim]
  · rw [String.toList_ofList]
    exact fun h => Text.not_mem_of_mem_pieces piece hpiece (Text.mem_of_mem_trim h)
  · rw [String.toList_ofList]
    exact fun h => hlf (Text.mem_of_mem_pieces hpiece (Text.mem_of_mem_trim h))

/-- So is the name of the default subsection. -/
lemma isName_defaultSubsection : IsName defaultSubsection := by
  constructor <;> decide

/-- A header names a section and a subsection. -/
lemma isName_of_splitHeader {header sectionName : String} {named : Option String}
    (hlf : '\n' ∉ header.toList) (h : splitHeader header = .ok (sectionName, named)) :
    IsName sectionName ∧ IsName (named.getD defaultSubsection) := by
  have hnames : ∀ name ∈ headerNames header, IsName name :=
    fun name => isName_of_mem_headerNames hlf
  rw [splitHeader] at h
  split at h
  · cases h
  · rename_i name heq
    cases h
    exact ⟨hnames _ (by simp [heq]), isName_defaultSubsection⟩
  · rename_i name other heq
    cases h
    exact ⟨hnames _ (by simp [heq]), hnames _ (by simp [heq])⟩
  · cases h

/-! ## Documents -/

namespace Document

/-- Distinct places with well-formed names and options make up a well-formed document. -/
lemma wellFormed_grouped {placements : List Placement}
    (hnodup : (placements.map Placement.pair).Nodup)
    (hplacements : ∀ placement ∈ placements, IsName placement.sectionName ∧
      IsName placement.subsectionName ∧ placement.options.Valid IsOption) :
    (grouped placements).WellFormed := by
  constructor
  · rw [grouped, Table.keys_tabulate]
    exact nodup_eraseDups _
  · intro name subsections hmem
    obtain ⟨hname, rfl⟩ := mem_grouped_iff.mp hmem
    obtain ⟨placement, hplacement, rfl⟩ := List.mem_map.mp hname
    refine ⟨(hplacements placement hplacement).1, ?_, nodup_keys_under hnodup _, ?_⟩
    · rw [under, ne_eq, List.map_eq_nil_iff]
      exact List.ne_nil_of_mem (List.mem_filter.mpr ⟨hplacement, by simp⟩)
    · intro subsection options hunder
      obtain ⟨other, hother, heq⟩ := List.mem_map.mp hunder
      cases heq
      exact (hplacements other (List.mem_filter.mp hother).1).2

/-- **A text denotes a well-formed document**, if it denotes one.

**Proof sketch.** The lines of the text are proper, and the blocks of their layout have well-formed
options and headers without line feeds. These name the places in the document. -/
lemma wellFormed_of_read {text : String} {document : Document} (h : read text = .ok document) :
    document.WellFormed := by
  obtain ⟨blocks, hscan, hblocks⟩ := bind_eq_ok_iff.mp h
  obtain ⟨placements, hplacements, hnodup, rfl⟩ := ofBlocks_eq_ok_iff.mp hblocks
  have hvalid := (scan_eq_ok_iff.mp hscan).valid_options fun line => proper_of_mem_linesOf
  refine wellFormed_grouped hnodup fun placement hplacement => ?_
  obtain ⟨block, hblock, heq⟩ :=
    (exists_of_forall₂ (mapM_eq_ok_iff.mp hplacements)).2 placement hplacement
  obtain ⟨hlf, hoptions⟩ := hvalid block hblock
  obtain ⟨hsplit, -, hplaced⟩ := Block.placement_eq_ok_iff.mp heq
  obtain ⟨hsection, hsubsection⟩ := isName_of_splitHeader hlf hsplit
  exact ⟨hsection, hsubsection, hplaced ▸ hoptions⟩

end Document

end Ini

end ConfigTree
