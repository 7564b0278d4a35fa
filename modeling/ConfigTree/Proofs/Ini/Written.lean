import ConfigTree.Proofs.Ini.WellFormed
import ConfigTree.Proofs.Tree.Storage

set_option relaxedAutoImplicit false
set_option autoImplicit false

/-!
# Writing INI documents

A well-formed document can be written as a text that denotes it: one line for the header of each
block, one for each option, and one indented line for each further line of a value. Hence the
mappings that texts denote are exactly those of well-formed documents, and the only thing that can
keep such a mapping from becoming a tree are two keys that normalizing makes the same.

## Main definitions

* `ConfigTree.Ini.Document.text` — the text of a document.
* `ConfigTree.Ini.IsWellFormed` — the mapping of a well-formed document.

## Main results

* `ConfigTree.Ini.layout_written` — the lines of blocks have these blocks as their layout.
* `ConfigTree.Ini.Document.read_text` — the text of a document denotes the document.
* `ConfigTree.Ini.parse_image` — the mappings that texts denote.
-/

namespace ConfigTree.Ini

open Text (isBlank trim pieces)

/-! ## The text of a document -/

/-- The line with the header of a block. -/
def headerLine (sectionName subsectionName : String) : List Char :=
  '[' :: (sectionName.toList ++ '@' :: subsectionName.toList ++ [']'])

/-- The lines of an option: the further lines of its value are indented. -/
def optionLines (key value : String) : List (List Char) :=
  (key.toList ++ ' ' :: '=' :: ' ' :: firstLine value) ::
    (furtherLines value).map fun line => ' ' :: line

/-- The lines of some options. -/
def optionsLines (options : Table String) : List (List Char) :=
  options.flatMap fun (key, value) => optionLines key value

/-- The lines of an option stand before those of the further options. -/
@[simp] lemma optionsLines_cons (key value : String) (options : Table String) :
    optionsLines ((key, value) :: options) =
      (key.toList ++ ' ' :: '=' :: ' ' :: firstLine value) ::
        ((furtherLines value).map (fun line => ' ' :: line) ++ optionsLines options) := rfl

/-- The lines of some blocks. -/
def blocksLines (entries : List (String × String × Table String)) : List (List Char) :=
  entries.flatMap fun (sectionName, subsectionName, options) =>
    headerLine sectionName subsectionName :: optionsLines options

/-- The lines of a block stand before those of the further blocks. -/
@[simp] lemma blocksLines_cons (sectionName subsectionName : String) (options : Table String)
    (entries : List (String × String × Table String)) :
    blocksLines ((sectionName, subsectionName, options) :: entries) =
      headerLine sectionName subsectionName :: (optionsLines options ++ blocksLines entries) := rfl

namespace Document

/-- The subsections of a document with their sections, in order. -/
def entries (document : Document) : List (String × String × Table String) :=
  document.flatMap fun (sectionName, subsections) => subsections.map (Prod.mk sectionName)

/-- The text of a document. -/
def text (document : Document) : String :=
  String.ofList ((blocksLines document.entries).flatMap fun line => line ++ ['\n'])

end Document

/-- The mapping of a well-formed document. -/
def IsWellFormed (mapping : Mapping) : Prop :=
  ∃ document : Document, document.WellFormed ∧ mapping = document.toMapping

/-! ## The lines of an option -/

variable {key value : String}

/-- A key is not empty. -/
lemma IsKey.toList_ne_nil (h : IsKey key) : key.toList ≠ [] := by
  simpa using h.ne_empty

/-- A key does not start with a blank. -/
lemma IsKey.isBlank_of_head? (h : IsKey key) {c : Char} (hc : key.toList.head? = some c) :
    isBlank c = false :=
  Text.isBlank_of_head?_trim (h.trim_eq.symm ▸ hc)

/-- The line of a key without a value ends in its delimiter when it is trimmed, and any other line
of an option stays as it is. -/
lemma exists_trim_option (hkey : IsKey key) {first : List Char} (hfirst : trim first = first) :
    ∃ tail, trim (key.toList ++ ' ' :: '=' :: ' ' :: first) = key.toList ++ ' ' :: '=' :: tail ∧
      trim tail = first ∧
      (key.toList ++ ' ' :: '=' :: tail).getLast? = some (first.getLast?.getD '=') := by
  obtain ⟨c, inner, hinner⟩ := List.exists_cons_of_ne_nil hkey.toList_ne_nil
  have hc : isBlank c = false := hkey.isBlank_of_head? (by rw [hinner]; rfl)
  rw [hinner]
  rcases List.eq_nil_or_concat' first with rfl | ⟨more, last, rfl⟩
  · have hline : c :: inner ++ [' ', '=', ' '] = c :: (inner ++ [' ']) ++ ['='] ++ [' '] := by simp
    refine ⟨[], ?_, rfl, by simp [List.getLast?_cons]⟩
    rw [hline, Text.trim_concat_blank (by decide), Text.trim_between hc (by decide)]
    simp
  · have hlast : isBlank last = false := Text.isBlank_of_getLast?_trim (by rw [hfirst]; simp)
    have hline : c :: inner ++ ' ' :: '=' :: ' ' :: (more ++ [last]) =
        c :: (inner ++ ' ' :: '=' :: ' ' :: more) ++ [last] := by simp
    refine ⟨' ' :: (more ++ [last]), ?_, ?_, by simp [List.getLast?_cons]⟩
    · rw [hline, Text.trim_between hc hlast]
    · rw [Text.trim_blank_cons (by decide), hfirst]

/-- **The first line of an option** is neither indented nor a header, and it has the key and the
first line of the value. -/
lemma exists_ofRaw?_option (h : IsOption key value) (number : ℕ) :
    ∃ text, Line.ofRaw? number (key.toList ++ ' ' :: '=' :: ' ' :: firstLine value) =
        some ⟨number, false, text⟩ ∧ headerOf? text = none ∧
      optionOf text = .ok (key, String.ofList (firstLine value)) := by
  obtain ⟨tail, htrim, htail, hlast⟩ := exists_trim_option h.isKey h.isValue.trim_firstLine
  obtain ⟨c, inner, hinner⟩ := List.exists_cons_of_ne_nil h.isKey.toList_ne_nil
  have hc : isBlank c = false := h.isKey.isBlank_of_head? (by rw [hinner]; rfl)
  refine ⟨key.toList ++ ' ' :: '=' :: tail, Line.ofRaw?_eq_some_iff.mpr ⟨?_, ?_, ?_⟩, ?_, ?_⟩
  · simp [htrim]
  · have := h.isKey.not_comment
    rw [htrim]
    simpa [isComment, hinner] using this
  · rw [htrim]
    simp [hinner, hc]
  · rw [headerOf?_eq_none_iff]
    intro hopen hclose
    refine h.not_header (by simpa [hinner] using hopen) ?_
    rw [hlast] at hclose
    cases hfirst : (firstLine value).getLast? with
    | none => simp [hfirst] at hclose
    | some c => simpa [hfirst] using hclose
  · rw [optionOf_eq_ok_iff]
    refine ⟨key.toList ++ [' '], '=', tail, by simp, ?_, by decide, ?_, ?_, by rw [htail]⟩
    · rw [List.forall_mem_append]
      exact ⟨h.isKey.not_delimiter, List.forall_mem_singleton.mpr (by decide)⟩
    · rw [Text.trim_concat_blank (by decide), h.isKey.trim_eq]
      exact h.isKey.toList_ne_nil
    · rw [Text.trim_concat_blank (by decide), h.isKey.trim_eq, String.ofList_toList]

/-- Further lines of a value continue it. -/
lemma linesFrom_further {texts : List (List Char)}
    (h : ∀ text ∈ texts, text ≠ [] ∧ trim text = text ∧ isComment text = false) (number : ℕ) :
    (∀ line ∈ linesFrom number (texts.map fun text => ' ' :: text), line.indented = true) ∧
      (linesFrom number (texts.map fun text => ' ' :: text)).map Line.text = texts := by
  induction texts generalizing number with
  | nil => simp [linesFrom]
  | cons text texts ih =>
    obtain ⟨⟨hne, htrim, hcomment⟩, htexts⟩ := List.forall_mem_cons.mp h
    have hraw : Line.ofRaw? number (' ' :: text) = some ⟨number, true, text⟩ := by
      have htext : trim (' ' :: text) = text := by
        rw [Text.trim_blank_cons (by decide), htrim]
      exact Line.ofRaw?_eq_some_iff.mpr ⟨by rwa [htext], by rwa [htext], by rw [htext]; rfl⟩
    obtain ⟨hindented, hmap⟩ := ih htexts (number + 1)
    rw [List.map_cons, linesFrom_cons_of_some hraw, List.map_cons, hmap]
    exact ⟨List.forall_mem_cons.mpr ⟨rfl, hindented⟩, rfl⟩

/-- A value is its first line with the further ones. -/
lemma continued_furtherLines {more : List Line} (h : more.map Line.text = furtherLines value) :
    continued (String.ofList (firstLine value)) more = value := by
  rw [← String.toList_inj, toList_continued, h, String.toList_ofList]
  exact (Text.pieces_eq_cons_iff.mp (pieces_value value)).2.symm

/-- **The lines of options** make up these options, and the first of them is not indented. -/
lemma below_written {options : Table String}
    (h : ∀ key value, (key, value) ∈ options → IsOption key value) :
    ∀ number, Below (linesFrom number (optionsLines options)) options ∧
      Flush (linesFrom number (optionsLines options)) := by
  induction options with
  | nil => exact fun number => ⟨.nil, by simp [Flush, optionsLines, linesFrom]⟩
  | cons option options ih =>
    intro number
    obtain ⟨key, value⟩ := option
    have hoption := h key value List.mem_cons_self
    obtain ⟨text, hraw, hheader, hkey⟩ := exists_ofRaw?_option hoption number
    obtain ⟨hindented, hmore⟩ := linesFrom_further hoption.isValue.furtherLines (number + 1)
    obtain ⟨hrest, hflush⟩ := ih (fun k v hmem => h k v (List.mem_cons_of_mem _ hmem))
      (number + 1 + ((furtherLines value).map fun line => ' ' :: line).length)
    have hbelow : Below (⟨number, false, text⟩ :: (_ ++ _)) _ :=
      .option hheader hkey hindented hflush hrest
    rw [continued_furtherLines hmore, ← linesFrom_append, ← linesFrom_cons_of_some hraw] at hbelow
    refine ⟨hbelow, ?_⟩
    rw [optionsLines_cons, linesFrom_cons_of_some hraw]
    simp [Flush]

/-! ## The lines of a block -/

variable {sectionName subsectionName : String}

/-- The line of a header stands as it is, without blanks at its ends. -/
lemma ofRaw?_headerLine (number : ℕ) (sectionName subsectionName : String) :
    Line.ofRaw? number (headerLine sectionName subsectionName) =
      some ⟨number, false, headerLine sectionName subsectionName⟩ := by
  have htrim : trim (headerLine sectionName subsectionName) =
      headerLine sectionName subsectionName := Text.trim_between (by decide) (by decide) _
  rw [Line.ofRaw?_eq_some_iff, htrim]
  exact ⟨List.cons_ne_nil _ _, rfl, rfl⟩

/-- The header of the line is what stands between its brackets. -/
lemma headerOf?_headerLine (hsection : IsName sectionName) (hsubsection : IsName subsectionName) :
    headerOf? (headerLine sectionName subsectionName) =
      some (sectionName.toList ++ '@' :: subsectionName.toList) := by
  refine headerOf?_eq_some_iff.mpr ⟨_, rfl, ?_⟩
  obtain ⟨c, first, hfirst⟩ :=
    List.exists_cons_of_ne_nil (mt String.toList_eq_nil_iff.mp hsection.ne_empty)
  obtain ⟨last, d, hlast⟩ := (List.eq_nil_or_concat' subsectionName.toList).resolve_left
    (mt String.toList_eq_nil_iff.mp hsubsection.ne_empty)
  have hc : isBlank c = false :=
    Text.isBlank_of_head?_trim (by rw [hsection.trim_eq, hfirst]; rfl)
  have hd : isBlank d = false :=
    Text.isBlank_of_getLast?_trim (by rw [hsubsection.trim_eq, hlast]; simp)
  have hends : sectionName.toList ++ '@' :: subsectionName.toList =
      c :: (first ++ '@' :: last) ++ [d] := by simp [hfirst, hlast]
  rw [hends, Text.trim_between hc hd]

/-- **The header of a block** names the section and the subsection. -/
lemma splitHeader_names (hsection : IsName sectionName) (hsubsection : IsName subsectionName) :
    splitHeader (String.ofList (sectionName.toList ++ '@' :: subsectionName.toList)) =
      .ok (sectionName, some subsectionName) := by
  have hnames : headerNames (String.ofList (sectionName.toList ++ '@' :: subsectionName.toList)) =
      [sectionName, subsectionName] := by
    rw [headerNames, String.toList_ofList, Text.pieces_append_cons hsection.at_not_mem,
      Text.pieces_eq_singleton hsubsection.at_not_mem]
    simp [hsection.trim_eq, hsubsection.trim_eq, hsection.ne_empty, hsubsection.ne_empty]
  rw [splitHeader, hnames]

/-- Blocks with other places have other headers. -/
lemma header_ne_of_pair_not_mem {blocks : List Block} {placements : List Placement}
    {header : String} (hplacements : blocks.mapM Block.placement = .ok placements)
    (hsplit : splitHeader header = .ok (sectionName, some subsectionName))
    (hnew : (sectionName, subsectionName) ∉ placements.map Placement.pair) :
    ∀ block ∈ blocks, block.header ≠ header := by
  rintro block hblock rfl
  obtain ⟨placement, hmem, hplacement⟩ :=
    (exists_of_forall₂ (mapM_eq_ok_iff.mp hplacements)).1 block hblock
  have hpair := (Block.placement_eq_ok_iff.mp hplacement).1
  rw [hsplit, Except.ok.injEq, Prod.mk.injEq] at hpair
  refine hnew (List.mem_map.mpr ⟨placement, hmem, ?_⟩)
  rw [Placement.pair, Placement.subsectionName, ← hpair.1, ← hpair.2, Option.getD_some]

/-- A placed block without the line of its header. -/
def Placement.entry (placement : Placement) : String × String × Table String :=
  (placement.sectionName, placement.subsectionName, placement.options)

/-- The place of a block is the first part of its entry. -/
lemma map_pair_eq (placements : List Placement) :
    placements.map Placement.pair =
      (placements.map Placement.entry).map fun (sectionName, subsectionName, _) =>
        (sectionName, subsectionName) := by
  rw [List.map_map]
  rfl

/-- A block that can be written. -/
def IsEntry : String × String × Table String → Prop
  | (sectionName, subsectionName, options) =>
    IsName sectionName ∧ IsName subsectionName ∧ options.Valid IsOption

/-- **The lines of blocks** have these blocks as their layout, and the first of them is not indented.

**Proof sketch.** Induction on the blocks. Two blocks cannot have the same header, since a header
names one place only. -/
lemma layout_written {entries : List (String × String × Table String)}
    (h : ∀ entry ∈ entries, IsEntry entry)
    (hnodup : (entries.map fun (sectionName, subsectionName, _) =>
      (sectionName, subsectionName)).Nodup) :
    ∀ number, Flush (linesFrom number (blocksLines entries)) ∧ ∃ blocks placements,
      Layout (linesFrom number (blocksLines entries)) blocks ∧
        blocks.mapM Block.placement = .ok placements ∧
        placements.map Placement.entry = entries := by
  induction entries with
  | nil =>
    intro number
    exact ⟨by simp [Flush, blocksLines, linesFrom], [], [], .nil, rfl, rfl⟩
  | cons entry entries ih =>
    intro number
    obtain ⟨sectionName, subsectionName, options⟩ := entry
    obtain ⟨⟨hsection, hsubsection, hoptions⟩, hentries⟩ := List.forall_mem_cons.mp h
    obtain ⟨hnew, hnodup⟩ := List.nodup_cons.mp hnodup
    obtain ⟨hbody, -⟩ := below_written hoptions.entries (number + 1)
    obtain ⟨hflush, blocks, placements, hrest, hplacements, hmap⟩ :=
      ih hentries hnodup (number + 1 + (optionsLines options).length)
    have hsplit := splitHeader_names hsection hsubsection
    have hblocks := header_ne_of_pair_not_mem hplacements hsplit (by rwa [map_pair_eq, hmap])
    have hlayout : Layout (⟨number, false, headerLine sectionName subsectionName⟩ :: (_ ++ _)) _ :=
      .block (headerOf?_headerLine hsection hsubsection) (by simp) hbody hoptions.nodup
        (fun _ => hflush) hblocks hrest
    rw [← linesFrom_append, ← linesFrom_cons_of_some (ofRaw?_headerLine _ _ _)] at hlayout
    refine ⟨?_, _, ⟨sectionName, some subsectionName, number, options⟩ :: placements, hlayout,
      ?_, ?_⟩
    · rw [blocksLines_cons, linesFrom_cons_of_some (ofRaw?_headerLine _ _ _)]
      simp [Flush]
    · exact mapM_eq_ok_iff.mpr (.cons (Block.placement_eq_ok_iff.mpr ⟨hsplit, rfl, rfl⟩)
        (mapM_eq_ok_iff.mp hplacements))
    · rw [List.map_cons, hmap]
      rfl

/-! ## The lines of a document -/

/-- A line of a text has no line feed and does not end in a carriage return. -/
def IsRaw (raw : List Char) : Prop :=
  '\n' ∉ raw ∧ raw.getLast? ≠ some '\r'

/-- A trimmed text does not end in a carriage return. -/
lemma getLast?_ne_return {text : List Char} (h : trim text = text) : text.getLast? ≠ some '\r' :=
  fun hlast => absurd (Text.isBlank_of_getLast?_trim (h.symm ▸ hlast)) (by decide)

/-- The lines of an option may be lines of a text. -/
lemma isRaw_optionLines (h : IsOption key value) : ∀ raw ∈ optionLines key value, IsRaw raw := by
  obtain ⟨hfirst, hfurther⟩ :=
    List.forall_mem_cons.mp (Text.pieces_eq_cons_iff.mp (pieces_value value)).1
  refine List.forall_mem_cons.mpr ⟨⟨?_, ?_⟩, List.forall_mem_map.mpr fun line hline => ⟨?_, ?_⟩⟩
  · simp [h.isKey.lf_not_mem, hfirst]
  · have hlast := getLast?_ne_return h.isValue.trim_firstLine
    rw [List.append_cons, List.append_cons, List.append_cons, List.getLast?_append]
    cases hvalue : (firstLine value).getLast? with
    | none => simp
    | some c => simpa [hvalue] using hlast
  · simp [hfurther line hline]
  · obtain ⟨hne, htrim, -⟩ := h.isValue.furtherLines line hline
    rw [List.getLast?_cons_of_ne_nil hne]
    exact getLast?_ne_return htrim

/-- So may the line of a header. -/
lemma isRaw_headerLine (hsection : IsName sectionName) (hsubsection : IsName subsectionName) :
    IsRaw (headerLine sectionName subsectionName) := by
  constructor
  · simp [headerLine, hsection.lf_not_mem, hsubsection.lf_not_mem]
  · simp [headerLine, List.getLast?_cons]

/-- So may all lines of blocks that can be written. -/
lemma isRaw_blocksLines {entries : List (String × String × Table String)}
    (h : ∀ entry ∈ entries, IsEntry entry) : ∀ raw ∈ blocksLines entries, IsRaw raw := by
  intro raw hraw
  obtain ⟨⟨sectionName, subsectionName, options⟩, hmem, hraw⟩ := List.mem_flatMap.mp hraw
  obtain ⟨hsection, hsubsection, hoptions⟩ := h _ hmem
  rcases List.mem_cons.mp hraw with rfl | hraw
  · exact isRaw_headerLine hsection hsubsection
  · obtain ⟨⟨key, value⟩, hoption, hraw⟩ := List.mem_flatMap.mp hraw
    exact isRaw_optionLines (hoptions.entries key value hoption) raw hraw

namespace Document

/-- The blocks of a well-formed document can be written. -/
lemma isEntry_of_mem_entries {document : Document} (h : document.WellFormed) :
    ∀ entry ∈ document.entries, IsEntry entry := by
  intro entry hentry
  obtain ⟨⟨sectionName, subsections⟩, hmem, hentry⟩ := List.mem_flatMap.mp hentry
  obtain ⟨⟨subsectionName, options⟩, hoptions, rfl⟩ := List.mem_map.mp hentry
  obtain ⟨hsection, hsubsections⟩ := h.entries sectionName subsections hmem
  exact ⟨hsection, hsubsections.valid.entries subsectionName options hoptions⟩

/-- The places in a document are distinct. -/
lemma nodup_entries {document : Document} (h : document.WellFormed) :
    (document.entries.map fun (sectionName, subsectionName, _) =>
      (sectionName, subsectionName)).Nodup := by
  have hentries : (document.entries.map fun (sectionName, subsectionName, _) =>
      (sectionName, subsectionName)) =
      document.flatMap fun (sectionName, subsections) =>
        (Table.keys subsections).map (Prod.mk sectionName) := by
    simp [entries, List.map_flatMap, Table.keys, Function.comp_def]
  rw [hentries, List.nodup_flatMap]
  constructor
  · rintro ⟨sectionName, subsections⟩ hmem
    exact (h.entries sectionName subsections hmem).2.valid.nodup.map
      fun _ _ heq => (Prod.mk.inj heq).2
  · refine (List.pairwise_map.mp h.nodup).imp fun hne => ?_
    simp only [Function.onFun, List.disjoint_left, List.mem_map]
    rintro _ ⟨name, -, rfl⟩ ⟨other, -, heq⟩
    exact hne (congrArg Prod.fst heq).symm

/-- The entries of the first section stand before those of the further sections. -/
lemma entries_cons (sectionName : String) (subsections : Table (Table String))
    (document : Document) :
    entries ((sectionName, subsections) :: document) =
      subsections.map (Prod.mk sectionName) ++ entries document := rfl

/-- The sections of the entries are sections of the document. -/
lemma map_fst_entries_subset (document : Document) :
    ∀ name ∈ document.entries.map Prod.fst, name ∈ document.keys := by
  intro name hname
  obtain ⟨entry, hentry, rfl⟩ := List.mem_map.mp hname
  obtain ⟨⟨sectionName, subsections⟩, hmem, hentry⟩ := List.mem_flatMap.mp hentry
  obtain ⟨_, -, rfl⟩ := List.mem_map.mp hentry
  exact Table.mem_keys_of_mem hmem

/-- A name that stands several times counts once. -/
lemma eraseDups_map_const {α : Type} (name : String) {l : List α} (hne : l ≠ []) :
    (l.map fun _ => name).eraseDups = [name] := by
  obtain ⟨first, rest, rfl⟩ := List.exists_cons_of_ne_nil hne
  have hrest : (rest.map fun _ => name).filter (fun other => !other == name) = [] := by
    rw [List.filter_eq_nil_iff]
    intro other hother
    obtain ⟨_, -, rfl⟩ := List.mem_map.mp hother
    simp
  rw [List.map_cons, List.eraseDups_cons, hrest, List.eraseDups_nil]

/-- Every section is the first part of an entry, in order. -/
lemma eraseDups_map_fst_entries {document : Document} (hkeys : document.keys.Nodup)
    (hne : ∀ name subsections, (name, subsections) ∈ document → subsections ≠ []) :
    (document.entries.map Prod.fst).eraseDups = document.keys := by
  induction document with
  | nil => rfl
  | cons entry document ih =>
    obtain ⟨name, subsections⟩ := entry
    obtain ⟨hname, hkeys⟩ := List.nodup_cons.mp hkeys
    have ih := ih hkeys fun n s hmem => hne n s (List.mem_cons_of_mem _ hmem)
    have hsame : (subsections.map (Prod.mk name)).map Prod.fst = subsections.map fun _ => name :=
      List.map_map
    have hrest : ((entries document).map Prod.fst).removeAll (subsections.map fun _ => name) =
        (entries document).map Prod.fst := by
      rw [List.removeAll, List.filter_eq_self]
      intro other hother
      rw [List.elem_eq_mem, Bool.not_eq_true', decide_eq_false_iff_not]
      intro hmem
      obtain ⟨_, -, rfl⟩ := List.mem_map.mp hmem
      exact hname (map_fst_entries_subset document name hother)
    rw [entries_cons, List.map_append, List.eraseDups_append, hsame, hrest, ih,
      eraseDups_map_const name (hne name subsections List.mem_cons_self)]
    rfl

/-- The entries of one section are its subsections. -/
lemma filter_entries {document : Document} (hkeys : document.keys.Nodup) {name : String}
    {subsections : Table (Table String)} (hmem : (name, subsections) ∈ document) :
    (document.entries.filter fun entry => entry.1 = name).map Prod.snd = subsections := by
  induction document with
  | nil => simp at hmem
  | cons entry document ih =>
    obtain ⟨other, others⟩ := entry
    obtain ⟨hother, hkeys⟩ := List.nodup_cons.mp hkeys
    rw [entries_cons, List.filter_append, List.map_append]
    rcases List.mem_cons.mp hmem with heq | hmem
    · cases heq
      have hrest : (entries document).filter (fun entry => entry.1 = name) = [] := by
        rw [List.filter_eq_nil_iff]
        intro entry hentry heq
        refine hother (map_fst_entries_subset document name ?_)
        exact List.mem_map.mpr ⟨entry, hentry, of_decide_eq_true heq⟩
      simp [hrest, List.filter_map, Function.comp_def]
    · have hne : other ≠ name := (ne_of_mem_of_not_mem (Table.mem_keys_of_mem hmem) hother).symm
      rw [ih hkeys hmem]
      simp [List.filter_map, Function.comp_def, hne]

/-- **Grouping the entries of a document** gives the document back. -/
lemma grouped_of_map_entry {document : Document} {placements : List Placement}
    (h : document.WellFormed) (hmap : placements.map Placement.entry = document.entries) :
    grouped placements = document := by
  have hsections : placements.map Placement.sectionName = document.entries.map Prod.fst := by
    rw [← hmap, List.map_map]
    rfl
  have hunder : ∀ name, under placements name =
      (document.entries.filter fun entry => entry.1 = name).map Prod.snd := by
    intro name
    rw [← hmap, List.filter_map, List.map_map]
    rfl
  rw [grouped, hsections, eraseDups_map_fst_entries h.nodup
    fun name subsections hmem => (h.entries name subsections hmem).2.ne_nil]
  exact Table.tabulate_keys fun name subsections hmem => by
    rw [hunder, filter_entries h.nodup hmem]

/-- **The text of a document denotes the document.** -/
lemma read_text {document : Document} (h : document.WellFormed) :
    read document.text = .ok document := by
  have hentries := isEntry_of_mem_entries h
  have hlines : linesOf document.text = linesFrom 1 (blocksLines document.entries) := by
    rw [linesOf, text, String.toList_ofList, Text.lines_ended (isRaw_blocksLines hentries)]
  obtain ⟨-, blocks, placements, hlayout, hplacements, hmap⟩ :=
    layout_written hentries (nodup_entries h) 1
  have hblocks : ofBlocks blocks = .ok document :=
    ofBlocks_eq_ok_iff.mpr ⟨placements, hplacements,
      by rw [map_pair_eq, hmap]; exact nodup_entries h, (grouped_of_map_entry h hmap).symm⟩
  rw [read, hlines]
  exact bind_eq_ok_iff.mpr ⟨blocks, scan_eq_ok_iff.mpr hlayout, hblocks⟩

/-! ## The mapping of a document -/

/-- No mapping inside that of a document stands below the last level. -/
lemma length_lt_of_reaches {document : Document} {path : List String} {target : Mapping}
    (h : Mapping.Reaches document.toMapping path target) : path.length < maxLevel := by
  cases h with
  | here => simp [maxLevel]
  | step hmem hreach =>
    obtain ⟨⟨_, subsections⟩, -, heq⟩ := List.mem_map.mp hmem
    cases heq
    cases hreach with
    | here => simp [maxLevel]
    | step hmem hreach =>
      obtain ⟨⟨_, options⟩, -, heq⟩ := List.mem_map.mp hmem
      cases heq
      cases hreach with
      | here => simp [maxLevel]
      | step hmem _ =>
        obtain ⟨_, -, heq⟩ := List.mem_map.mp hmem
        cases heq

/-- The mapping of a document becomes a tree, unless two keys are the same key. -/
lemma duplicateKey_of_build {document : Document} {treatment : Treatment} {label : String}
    {e : Error} (h : Tree.build treatment document.toMapping label 0 = .error e) :
    ∃ level key existing, e.kind = .duplicateKey level key existing := by
  have hdecides := Tree.decides_build label treatment document.toMapping 0
  refine Mapping.duplicateKey_of_mem_faultsAt treatment.store label 0 document.toMapping ?_
    (List.mem_of_mem_head? ((hdecides.eq_error_iff e).mp h))
  intro path target hreach
  rw [Nat.zero_add]
  exact length_lt_of_reaches hreach

end Document

/-- **The mappings that texts denote** are exactly those of well-formed documents, each of them is
denoted by the text of its document, and only keys that are there already can keep it from becoming
a tree.

**Proof sketch.** A text denotes a well-formed document (`Document.wellFormed_of_read`), and a
well-formed document is denoted by its text (`Document.read_text`). The mapping of a document is not
deep enough to exceed the levels. -/
theorem parse_image :
    (∀ (mapping : Mapping) (source : String),
      (∃ text, parse text source = .ok mapping) ↔ IsWellFormed mapping) ∧
    (∀ document : Document, document.WellFormed → ∀ source,
      parse document.text source = .ok document.toMapping) ∧
    ∀ (text source : String) (mapping : Mapping) (treatment : Treatment) (label : String)
      (e : Error), parse text source = .ok mapping →
        Tree.build treatment mapping label 0 = .error e →
        ∃ level key existing, e.kind = .duplicateKey level key existing := by
  have hwritten : ∀ document : Document, document.WellFormed → ∀ source,
      parse document.text source = .ok document.toMapping :=
    fun document h source => parse_eq_ok_iff.mpr ⟨document, Document.read_text h, rfl⟩
  refine ⟨fun mapping source => ⟨?_, ?_⟩, hwritten, ?_⟩
  · rintro ⟨text, h⟩
    obtain ⟨document, hread, rfl⟩ := parse_eq_ok_iff.mp h
    exact ⟨document, Document.wellFormed_of_read hread, rfl⟩
  · rintro ⟨document, h, rfl⟩
    exact ⟨document.text, hwritten document h source⟩
  · intro text source mapping treatment label e h hbuild
    obtain ⟨document, -, rfl⟩ := parse_eq_ok_iff.mp h
    exact Document.duplicateKey_of_build hbuild

/-- A key that starts with a bracket, a value that looks like a header and a value with an empty
first line are written so that they are read back. -/
example :
    Document.text [("s", [("main", [("[k", "v"), ("k", "[t]\nx = y"), ("l", "\n:")])])] =
      "[s@main]\n[k = v\nk = [t]\n x = y\nl = \n :\n" := by
  decide

end ConfigTree.Ini
