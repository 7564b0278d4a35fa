import ConfigTree.Proofs.Ini.Merge
import ConfigTree.Proofs.Ini.Numbering

set_option relaxedAutoImplicit false
set_option autoImplicit false

/-!
# Putting INI texts together

Two texts may be put together if the first one ends with a line end and the second one starts with a
header. No state of the scan goes over the seam: the header ends the options before it, and from then
on the blocks of the first text are only looked at when another header is compared with theirs. So
the text denotes the first document with the second one merged into it, unless both have a place in
common; then it fails at a line of the second text.

## Main definitions

* `ConfigTree.Ini.Line.NamesPlace` — a line with a header that names a section and a subsection.
* `ConfigTree.Ini.Fault.IsRepetition` — a section or a subsection occurs twice.

## Main results

* `ConfigTree.Ini.scanLine_above`, `ConfigTree.Ini.foldlM_scanLine_above` — a line, and some lines,
  above other blocks.
* `ConfigTree.Ini.scan_append` — a scan of lines after other lines.
* `ConfigTree.Ini.readLines_append` — the document of lines after other lines.
* `ConfigTree.Ini.parse_append` — the mapping of a text after another text.
-/

namespace ConfigTree

/-! ## The lines of texts that are put together -/

namespace Text

/-- The lines of a text are divided at each of its line feeds. -/
lemma linesFrom_append_of_lf (text more : List Char) :
    ∀ seen : List Char, linesFrom seen (text ++ '\n' :: more) =
      linesFrom seen (text ++ ['\n']) ++ linesFrom [] more := by
  induction text with
  | nil =>
    intro seen
    simp [linesFrom]
  | cons c text ih =>
    intro seen
    by_cases hc : c = '\n'
    · subst hc
      rw [List.cons_append, List.cons_append, linesFrom, linesFrom, ih, List.cons_append]
    · rw [List.cons_append, List.cons_append, linesFrom, linesFrom, ih]
      all_goals exact hc

/-- Lines after a line end are lines of their own. -/
lemma lines_append {text : List Char} (h : text = [] ∨ ∃ rest, text = rest ++ ['\n'])
    (more : List Char) : lines (text ++ more) = lines text ++ lines more := by
  rcases h with rfl | ⟨rest, rfl⟩
  · simp [lines, linesFrom]
  · rw [List.append_assoc, List.singleton_append]
    exact linesFrom_append_of_lf rest more []

end Text

namespace Ini

/-- Lines that are numbered from a later number on have numbers that are greater by as much. -/
lemma linesFrom_add (count : ℕ) (raws : List (List Char)) :
    ∀ number : ℕ, linesFrom (number + count) raws =
      (linesFrom number raws).map (Line.renumber (· + count)) := by
  induction raws with
  | nil => exact fun _ => rfl
  | cons raw raws ih =>
    intro number
    have hfirst : Line.ofRaw? (number + count) raw =
        (Line.ofRaw? number raw).map (Line.renumber (· + count)) := by
      rw [Line.ofRaw?, Line.ofRaw?]
      split <;> rfl
    rw [linesFrom, linesFrom, hfirst, Nat.add_right_comm, ih, List.map_append]
    cases Line.ofRaw? number raw <;> rfl

/-- **The lines of texts that are put together** are those of both, and the numbers of the second ones
go on after the first text. -/
lemma linesOf_append {first : String} (h : first = "" ∨ ∃ rest, first = rest ++ "\n")
    (second : String) :
    linesOf (first ++ second) = linesOf first ++
      (linesOf second).map (Line.renumber (· + (Text.lines first.toList).length)) := by
  have hend : first.toList = [] ∨ ∃ rest, first.toList = rest ++ ['\n'] := by
    rcases h with rfl | ⟨rest, rfl⟩
    · exact .inl rfl
    · exact .inr ⟨rest.toList, by simp⟩
  rw [linesOf, String.toList_append, Text.lines_append hend, linesFrom_append, linesFrom_add]
  rfl

/-! ## Lines above other blocks -/

variable {line : Line} {lines more : List Line} {state next final : List Block}

/-- A line continues no value if it is not indented or if the newest block has no options. -/
lemma continueOption?_of_flush
    (hflush : ∀ block ∈ state.head?, block.options ≠ [] → line.indented = false) :
    (if line.indented then continueOption? line.text state else none) = none := by
  rcases state with _ | ⟨⟨header, number, _ | ⟨option, options⟩⟩, earlier⟩
  · cases line.indented <;> rfl
  · cases line.indented <;> rfl
  · rw [hflush _ rfl (List.cons_ne_nil _ _)]
    rfl

/-- A header that a block has already does not open another one. -/
lemma scanLine_of_repeated {name : List Char} (hheader : headerOf? line.text = some name)
    (hname : name ≠ []) (hmem : String.ofList name ∈ state.map Block.header)
    (hflush : ∀ block ∈ state.head?, block.options ≠ [] → line.indented = false) :
    scanLine state line = .error ⟨line.number, .repeatedSection (String.ofList name)⟩ := by
  have hany : (state.any fun block => block.header = String.ofList name) = true := by
    simpa using hmem
  have hopen : openBlock state line.number name =
      .error (.repeatedSection (String.ofList name)) := by
    simp [openBlock, hname, hany]
  rw [scanLine, continueOption?_of_flush hflush, addLine, hheader]
  simp only [hopen]

/-- A header above other blocks opens a block there, unless one of the others has it. -/
lemma scanLine_header_above {name : List Char} {earlier : List Block}
    (hheader : headerOf? line.text = some name) (hname : name ≠ [])
    (hnew : ∀ block ∈ state, block.header ≠ String.ofList name)
    (hflush : ∀ block ∈ (state ++ earlier).head?, block.options ≠ [] → line.indented = false) :
    scanLine (state ++ earlier) line =
        .ok (⟨String.ofList name, line.number, []⟩ :: state ++ earlier) ∨
      String.ofList name ∈ earlier.map Block.header ∧ scanLine (state ++ earlier) line =
        .error ⟨line.number, .repeatedSection (String.ofList name)⟩ := by
  by_cases hmem : String.ofList name ∈ earlier.map Block.header
  · refine .inr ⟨hmem, scanLine_of_repeated hheader hname ?_ hflush⟩
    rw [List.map_append]
    exact List.mem_append_right _ hmem
  · refine .inl (scanLine_of_header hheader hname ?_ hflush)
    refine List.forall_mem_append.mpr ⟨hnew, fun block hblock heq => hmem ?_⟩
    exact List.mem_map.mpr ⟨block, hblock, heq⟩

/-- What keeps a line from being scanned above other blocks: it is a header that one of these has. -/
structure Repeats (line : Line) (name : List Char) (earlier opened : List Block) : Prop where
  /-- The line is a header with this name. -/
  headerOf?_eq : headerOf? line.text = some name
  /-- One of the other blocks has the name. -/
  mem_earlier : String.ofList name ∈ earlier.map Block.header
  /-- So has one of the line's own blocks. -/
  mem_opened : String.ofList name ∈ opened.map Block.header

/-- **A line above other blocks** does to its own blocks what it does without the others, unless it
is a header that one of the others has. -/
lemma scanLine_above (hstart : state = [] → line.indented = false)
    (h : scanLine state line = .ok next) (earlier : List Block) :
    scanLine (state ++ earlier) line = .ok (next ++ earlier) ∨
      ∃ name, Repeats line name earlier next ∧ scanLine (state ++ earlier) line =
        .error ⟨line.number, .repeatedSection (String.ofList name)⟩ := by
  cases state with
  | nil =>
    obtain ⟨name, hheader, hname, rfl⟩ := scanLine_nil_eq_ok_iff.mp h
    have hnew : ∀ block ∈ ([] : List Block), block.header ≠ String.ofList name := by simp
    have hflush : ∀ block ∈ ([] ++ earlier).head?, block.options ≠ [] → line.indented = false :=
      fun _ _ _ => hstart rfl
    rcases scanLine_header_above hheader hname hnew hflush with hopen | ⟨hmem, herror⟩
    · exact .inl hopen
    · exact .inr ⟨name, ⟨hheader, hmem, by simp⟩, herror⟩
  | cons block rest =>
    rcases scanLine_cons_eq_ok_iff.mp h with
      ⟨key, value, options, hoptions, hindented, rfl⟩ | ⟨hline, hadd⟩
    · exact .inl (scanLine_cons_eq_ok_iff.mpr
        (.inl ⟨key, value, options, hoptions, hindented, rfl⟩))
    rcases addLine_eq_ok_iff.mp hadd with
      ⟨name, hheader, hname, hnew, rfl⟩ | ⟨key, value, hheader, hoption, hkey, rfl⟩
    · have hflush : ∀ b ∈ (block :: rest ++ earlier).head?, b.options ≠ [] →
          line.indented = false := by
        rintro b hb hne
        obtain rfl : block = b := Option.some.inj hb
        exact hline hne
      rcases scanLine_header_above hheader hname hnew hflush with hopen | ⟨hmem, herror⟩
      · exact .inl hopen
      · exact .inr ⟨name, ⟨hheader, hmem, by simp⟩, herror⟩
    · exact .inl (scanLine_cons_eq_ok_iff.mpr (.inr ⟨hline, addLine_eq_ok_iff.mpr
        (.inr ⟨key, value, hheader, hoption, hkey, rfl⟩)⟩))

/-- A line keeps the headers, and there is a block after it. -/
lemma headers_of_scanLine (h : scanLine state line = .ok next) :
    next ≠ [] ∧ state.map Block.header <:+ next.map Block.header := by
  cases state with
  | nil =>
    obtain ⟨name, -, -, rfl⟩ := scanLine_nil_eq_ok_iff.mp h
    exact ⟨List.cons_ne_nil _ _, List.nil_suffix⟩
  | cons block rest =>
    rcases scanLine_cons_eq_ok_iff.mp h with ⟨_, _, _, -, -, rfl⟩ | ⟨-, hadd⟩
    · exact ⟨List.cons_ne_nil _ _, List.suffix_rfl⟩
    rcases addLine_eq_ok_iff.mp hadd with ⟨_, -, -, -, rfl⟩ | ⟨_, _, -, -, -, rfl⟩
    · exact ⟨List.cons_ne_nil _ _, List.suffix_cons _ _⟩
    · exact ⟨List.cons_ne_nil _ _, List.suffix_rfl⟩

/-- Lines keep the headers that are there before them. -/
lemma headers_of_foldlM_scanLine (h : lines.foldlM scanLine state = .ok final) :
    state.map Block.header <:+ final.map Block.header := by
  induction lines generalizing state with
  | nil =>
    obtain rfl := Except.ok.inj h
    exact List.suffix_rfl
  | cons line lines ih =>
    obtain ⟨next, hnext, h⟩ := bind_eq_ok_iff.mp (List.foldlM_cons.symm.trans h)
    exact (headers_of_scanLine hnext).2.trans (ih h)

/-- **Lines above other blocks** do to their own blocks what they do without the others, unless one
of them is a header that one of the others has.

**Proof sketch.** Induction on the lines. After the first one there is a block, so that the next line
cannot continue an option of the other blocks; headers are kept to the end of the run. -/
lemma foldlM_scanLine_above (hstart : state = [] → Flush lines)
    (h : lines.foldlM scanLine state = .ok final) (earlier : List Block) :
    lines.foldlM scanLine (state ++ earlier) = .ok (final ++ earlier) ∨
      ∃ line ∈ lines, ∃ name, Repeats line name earlier final ∧
        lines.foldlM scanLine (state ++ earlier) =
          .error ⟨line.number, .repeatedSection (String.ofList name)⟩ := by
  induction lines generalizing state with
  | nil =>
    obtain rfl := Except.ok.inj h
    exact .inl rfl
  | cons line lines ih =>
    obtain ⟨next, hnext, h⟩ := bind_eq_ok_iff.mp (List.foldlM_cons.symm.trans h)
    have hnonempty : next = [] → Flush lines :=
      fun hnil => absurd hnil (headers_of_scanLine hnext).1
    rcases scanLine_above (fun hnil => hstart hnil line rfl) hnext earlier with
      hline | ⟨name, hrepeats, hline⟩
    · rw [foldlM_scanLine_cons hline]
      rcases ih hnonempty h with hall | ⟨other, hmem, name, hrepeats, hall⟩
      · exact .inl hall
      · exact .inr ⟨other, List.mem_cons_of_mem _ hmem, name, hrepeats, hall⟩
    · refine .inr ⟨line, List.mem_cons_self, name, ⟨hrepeats.headerOf?_eq, hrepeats.mem_earlier,
        (headers_of_foldlM_scanLine h).subset hrepeats.mem_opened⟩, ?_⟩
      rw [List.foldlM_cons, hline]
      rfl

/-- **A scan of lines after other lines** finds the blocks of both, unless one of the lines is a header
of both.

**Proof sketch.** The run over the second lines starts above the blocks of the first ones. -/
lemma scan_append {blocks others : List Block} (hfirst : scan lines = .ok blocks)
    (hsecond : scan more = .ok others) (hflush : Flush more) :
    scan (lines ++ more) = .ok (blocks ++ others) ∨
      ∃ line ∈ more, ∃ name, Repeats line name blocks others ∧ scan (lines ++ more) =
        .error ⟨line.number, .repeatedSection (String.ofList name)⟩ := by
  obtain ⟨state, hstate, rfl⟩ := map_eq_ok_iff.mp hfirst
  obtain ⟨final, hfinal, rfl⟩ := map_eq_ok_iff.mp hsecond
  have hheaders : ∀ (run : List Block) (header : String), header ∈ run.map Block.header →
      header ∈ ((run.map Block.inOrder).reverse).map Block.header := by
    intro run header hmem
    simpa [Block.inOrder] using hmem
  rw [scan, foldlM_scanLine_append hstate]
  rcases foldlM_scanLine_above (fun _ => hflush) hfinal state with
    hall | ⟨line, hmem, name, hrepeats, hall⟩
  · rw [List.nil_append] at hall
    rw [hall]
    simp [Except.map]
  · rw [List.nil_append] at hall
    refine .inr ⟨line, hmem, name, ⟨hrepeats.headerOf?_eq, hheaders _ _ hrepeats.mem_earlier,
      hheaders _ _ hrepeats.mem_opened⟩, ?_⟩
    rw [hall]
    rfl

/-! ## The places of lines after other lines -/

/-- The line is a header that names the place: a section, and a subsection or the default one. -/
def Line.NamesPlace (line : Line) (place : String × String) : Prop :=
  ∃ name named, headerOf? line.text = some name ∧
    splitHeader (String.ofList name) = .ok (place.1, named) ∧
    place.2 = named.getD defaultSubsection

/-- A section or a subsection occurs twice. -/
inductive Fault.IsRepetition : Fault → Prop where
  /-- A section, or a header, occurs twice. -/
  | ofSection (name : String) : IsRepetition (.repeatedSection name)
  /-- A subsection occurs twice. -/
  | ofSubsection (sectionName name : String) : IsRepetition (.repeatedSubsection sectionName name)

variable {blocks others : List Block} {placements rest : List Placement}

/-- The fault of a taken place is that a section or a subsection occurs twice. -/
lemma Placement.isRepetition_fault (placement : Placement) : placement.fault.IsRepetition := by
  unfold Placement.fault
  cases placement.named with
  | none => exact .ofSection _
  | some name => exact .ofSubsection _ name

/-- Lines denote a document exactly if they make up blocks whose headers name distinct places. -/
lemma readLines_eq_ok_iff {document : Document} : readLines lines = .ok document ↔
    ∃ blocks placements, scan lines = .ok blocks ∧ blocks.mapM Block.placement = .ok placements ∧
      (placements.map Placement.pair).Nodup ∧ document = Document.grouped placements := by
  rw [readLines, bind_eq_ok_iff]
  simp only [Document.ofBlocks_eq_ok_iff]
  constructor
  · rintro ⟨blocks, hscan, placements, hplacements, hnodup, rfl⟩
    exact ⟨blocks, placements, hscan, hplacements, hnodup, rfl⟩
  · rintro ⟨blocks, placements, hscan, hplacements, hnodup, rfl⟩
    exact ⟨blocks, hscan, placements, hplacements, hnodup, rfl⟩

/-- Every block stands below a line with its header. -/
lemma Layout.exists_line (h : Layout lines blocks) : ∀ block ∈ blocks, ∃ line ∈ lines, ∃ name,
    headerOf? line.text = some name ∧ block.header = String.ofList name ∧
      block.line = line.number := by
  induction h with
  | nil => simp
  | @block line body rest name options blocks hheader _ _ _ _ _ _ ih =>
    refine List.forall_mem_cons.mpr ⟨⟨line, List.mem_cons_self, name, hheader, rfl, rfl⟩, ?_⟩
    intro block hblock
    obtain ⟨other, hmem, hother⟩ := ih block hblock
    exact ⟨other, List.mem_cons_of_mem _ (List.mem_append_right _ hmem), hother⟩

/-- The header of a placed block names its place. -/
lemma exists_namesPlace (hscan : scan lines = .ok blocks)
    (hplacements : blocks.mapM Block.placement = .ok placements) :
    ∀ placement ∈ placements, ∃ line ∈ lines,
      line.NamesPlace placement.pair ∧ placement.line = line.number := by
  intro placement hmem
  obtain ⟨block, hblock, hplacement⟩ :=
    (exists_of_forall₂ (mapM_eq_ok_iff.mp hplacements)).2 placement hmem
  obtain ⟨hsplit, hline, -⟩ := Block.placement_eq_ok_iff.mp hplacement
  obtain ⟨line, hmem, name, hheader, hname, hnumber⟩ :=
    (scan_eq_ok_iff.mp hscan).exists_line block hblock
  rw [hname] at hsplit
  exact ⟨line, hmem, ⟨name, placement.named, hheader, hsplit, rfl⟩, hline.trans hnumber⟩

/-- A line with the header of a block names the place of this block. -/
lemma exists_placement_of_header {line : Line} {name : List Char}
    (hheader : headerOf? line.text = some name)
    (hplacements : blocks.mapM Block.placement = .ok placements)
    (hname : String.ofList name ∈ blocks.map Block.header) :
    ∃ placement ∈ placements, line.NamesPlace placement.pair := by
  obtain ⟨block, hblock, heq⟩ := List.mem_map.mp hname
  obtain ⟨placement, hmem, hplacement⟩ :=
    (exists_of_forall₂ (mapM_eq_ok_iff.mp hplacements)).1 block hblock
  obtain ⟨hsplit, -, -⟩ := Block.placement_eq_ok_iff.mp hplacement
  rw [heq] at hsplit
  exact ⟨placement, hmem, name, placement.named, hheader, hsplit, rfl⟩

/-- A header names only one place. -/
lemma Line.NamesPlace.unique {line : Line} {place other : String × String}
    (h : line.NamesPlace place) (h' : line.NamesPlace other) : place = other := by
  obtain ⟨name, named, hheader, hsplit, hplace⟩ := h
  obtain ⟨name', named', hheader', hsplit', hplace'⟩ := h'
  rw [hheader, Option.some.injEq] at hheader'
  subst hheader'
  rw [hsplit, Except.ok.injEq, Prod.mk.injEq] at hsplit'
  obtain ⟨hsection, rfl⟩ := hsplit'
  exact Prod.ext hsection (hplace.trans hplace'.symm)

/-- **Blocks after other blocks** make up the document that groups all of them, or the first of them
whose place is taken by one of the others is reported. -/
lemma ofBlocks_append (hfirst : blocks.mapM Block.placement = .ok placements)
    (hsecond : others.mapM Block.placement = .ok rest)
    (hplacements : (placements.map Placement.pair).Nodup) (hrest : (rest.map Placement.pair).Nodup) :
    (placements.map Placement.pair).Disjoint (rest.map Placement.pair) ∧
        Document.ofBlocks (blocks ++ others) = .ok (Document.grouped (placements ++ rest)) ∨
      ∃ placement ∈ rest, placement.pair ∈ placements.map Placement.pair ∧
        Document.ofBlocks (blocks ++ others) = .error ⟨placement.line, placement.fault⟩ := by
  have hall : (blocks ++ others).mapM Block.placement = .ok (placements ++ rest) := by
    rw [List.mapM_append, hfirst, hsecond]
    rfl
  by_cases hnodup : ((placements ++ rest).map Placement.pair).Nodup
  · refine .inl ⟨?_, Document.ofBlocks_eq_ok_iff.mpr ⟨_, hall, hnodup, rfl⟩⟩
    rw [List.map_append] at hnodup
    exact (List.nodup_append'.mp hnodup).2.2
  · obtain ⟨before, placement, after, rfl, hbefore, hmem⟩ :=
      exists_first_taken_after hplacements hnodup
    rw [← List.append_assoc] at hall
    refine .inr ⟨placement, by simp, ?_, Document.ofBlocks_eq_error hall hbefore hmem⟩
    rw [List.map_append, List.mem_append] at hmem
    refine hmem.resolve_right fun hmem => ?_
    rw [List.map_append, List.map_cons] at hrest
    exact (List.nodup_append'.mp hrest).2.2 hmem List.mem_cons_self

/-- **The document of lines after other lines** is that of the first ones with that of the others
merged into it, if both have no place in common. If they have one, a header among the second lines is
reported that names a place of both.

**Proof sketch.** The scan finds the blocks of both, or it stops at a header that both have
(`scan_append`), and this header names the same place in both. Where the blocks are found, they make
up the document, or one of them finds its place taken (`ofBlocks_append`). -/
lemma readLines_append {document other : Document} (hfirst : readLines lines = .ok document)
    (hsecond : readLines more = .ok other) (hflush : Flush more) :
    document.toMapping.places.Disjoint other.toMapping.places ∧
        (∃ merged, readLines (lines ++ more) = .ok merged ∧
          merged.toMapping = document.toMapping.merge other.toMapping) ∨
      ∃ line ∈ more, ∃ place fault, place ∈ document.toMapping.places ∧
        place ∈ other.toMapping.places ∧ line.NamesPlace place ∧ fault.IsRepetition ∧
        readLines (lines ++ more) = .error ⟨line.number, fault⟩ := by
  obtain ⟨blocks, placements, hscan, hplacements, hnodup, rfl⟩ := readLines_eq_ok_iff.mp hfirst
  obtain ⟨others, rest, hscan', hrest, hnodup', rfl⟩ := readLines_eq_ok_iff.mp hsecond
  rcases scan_append hscan hscan' hflush with hall | ⟨line, hline, name, hrepeats, hall⟩
  · rcases ofBlocks_append hplacements hrest hnodup hnodup' with
      ⟨hdisjoint, hdocument⟩ | ⟨placement, hmem, htaken, herror⟩
    · refine .inl ⟨fun place hplace hother => ?_, Document.grouped (placements ++ rest), ?_,
        Document.toMapping_grouped_append placements rest⟩
      · exact hdisjoint (Document.mem_places_toMapping_grouped.mp hplace)
          (Document.mem_places_toMapping_grouped.mp hother)
      · rw [readLines, hall]
        exact hdocument
    · obtain ⟨line, hline, hnames, hnumber⟩ := exists_namesPlace hscan' hrest placement hmem
      refine .inr ⟨line, hline, placement.pair, placement.fault,
        Document.mem_places_toMapping_grouped.mpr htaken,
        Document.mem_places_toMapping_grouped.mpr (List.mem_map_of_mem hmem), hnames,
        placement.isRepetition_fault, ?_⟩
      rw [readLines, hall, ← hnumber]
      exact herror
  · obtain ⟨placement, hmem, hnames⟩ :=
      exists_placement_of_header hrepeats.headerOf?_eq hplacements hrepeats.mem_earlier
    obtain ⟨placement', hmem', hnames'⟩ :=
      exists_placement_of_header hrepeats.headerOf?_eq hrest hrepeats.mem_opened
    have hsame : placement'.pair = placement.pair := hnames'.unique hnames
    refine .inr ⟨line, hline, placement.pair, .repeatedSection (String.ofList name),
      Document.mem_places_toMapping_grouped.mpr (List.mem_map_of_mem hmem),
      Document.mem_places_toMapping_grouped.mpr (hsame ▸ List.mem_map_of_mem hmem'), hnames,
      .ofSection _, ?_⟩
    rw [readLines, hall]
    rfl

/-! ## Texts after other texts -/

/-- **INI texts may be put together**, if the first one is empty or ends with a line feed and the
first significant line of the second one is not indented; this line is a header then, since the second
text denotes a mapping. If the mappings of both have no section with the same subsection in common,
the text denotes the first mapping with the second one merged into it. Otherwise the text fails since
a section or a subsection occurs twice, at a line of the second text: a header that names a place in
both mappings.

**Proof sketch.** The lines of the text are those of both, and the numbers of the second ones go on
after the first text (`linesOf_append`), which changes nothing but the line of a failure
(`readLines_renumber`). What lines after other lines denote is `readLines_append`. -/
theorem parse_append {first second source : String} {mapping more : Mapping}
    (hend : first = "" ∨ ∃ rest, first = rest ++ "\n")
    (hstart : ∀ line ∈ (linesOf second).head?, line.indented = false)
    (hfirst : parse first source = .ok mapping) (hsecond : parse second source = .ok more) :
    (mapping.places.Disjoint more.places →
      parse (first ++ second) source = .ok (mapping.merge more)) ∧
    (¬mapping.places.Disjoint more.places →
      ∃ line ∈ linesOf second, ∃ place e, place ∈ mapping.places ∧ place ∈ more.places ∧
        line.NamesPlace place ∧
        ((∃ name, e = Error.duplicateSection name) ∨
          ∃ sectionName name, e = Error.duplicateSubsection sectionName name) ∧
        parse (first ++ second) source = .error (e.withLocation
          ⟨source, some (line.number + (Text.lines first.toList).length)⟩)) := by
  obtain ⟨document, hdocument, rfl⟩ := parse_eq_ok_iff.mp hfirst
  obtain ⟨other, hother, rfl⟩ := parse_eq_ok_iff.mp hsecond
  have hshifted : readLines ((linesOf second).map
      (Line.renumber (· + (Text.lines first.toList).length))) = .ok other := by
    rw [readLines_renumber, ← read_eq_readLines, hother]
    rfl
  have hflush : Flush ((linesOf second).map
      (Line.renumber (· + (Text.lines first.toList).length))) := by
    intro line hline
    rw [List.head?_map] at hline
    obtain ⟨unshifted, hunshifted, rfl⟩ := Option.map_eq_some_iff.mp hline
    exact hstart unshifted hunshifted
  rcases readLines_append hdocument hshifted hflush with
    ⟨hdisjoint, merged, hmerged, heq⟩ | ⟨line, hline, place, fault, hplace, hplace', hnames, hfault, hall⟩
  · refine ⟨fun _ => ?_, fun h => absurd hdisjoint h⟩
    rw [← linesOf_append hend] at hmerged
    exact parse_eq_ok_iff.mpr ⟨merged, hmerged, heq.symm⟩
  · refine ⟨fun h => absurd hplace' (h hplace), fun _ => ?_⟩
    obtain ⟨unshifted, hmem, rfl⟩ := List.mem_map.mp hline
    rw [← linesOf_append hend] at hall
    refine ⟨unshifted, hmem, place, fault.toError, hplace, hplace', hnames, ?_,
      parse_eq_error_iff.mpr ⟨_, hall, rfl⟩⟩
    cases hfault with
    | ofSection name => exact .inl ⟨name, rfl⟩
    | ofSubsection sectionName name => exact .inr ⟨sectionName, name, rfl⟩

/-- A section of the first text gets a subsection, and the comment before the first header does not
matter. -/
theorem parse_append_sections :
    parse ("[s]\na = 1\n" ++ "; next\n[t]\nb = 2\n[s@x]\n") "app.ini" =
      .ok [("s", .mapping [("main", .mapping [("a", .string "1")]), ("x", .mapping [])]),
        ("t", .mapping [("main", .mapping [("b", .string "2")])])] := by
  have hscan : scan (linesOf "[s]\na = 1\n") = .ok [⟨"s", 1, [("a", "1")]⟩] := by
    decide
  have hplacements : [(⟨"s", 1, [("a", "1")]⟩ : Block)].mapM Block.placement =
      .ok [⟨"s", none, 1, [("a", "1")]⟩] := by
    decide
  have hfirst : parse "[s]\na = 1\n" "app.ini" =
      .ok [("s", .mapping [("main", .mapping [("a", .string "1")])])] :=
    parse_of_nodup hscan hplacements (by decide)
  have hscan' : scan (linesOf "; next\n[t]\nb = 2\n[s@x]\n") =
      .ok [⟨"t", 2, [("b", "2")]⟩, ⟨"s@x", 4, []⟩] := by
    decide
  have hplacements' : [(⟨"t", 2, [("b", "2")]⟩ : Block), ⟨"s@x", 4, []⟩].mapM Block.placement =
      .ok [⟨"t", none, 2, [("b", "2")]⟩, ⟨"s", some "x", 4, []⟩] := by
    decide
  have hsecond : parse "; next\n[t]\nb = 2\n[s@x]\n" "app.ini" =
      .ok [("t", .mapping [("main", .mapping [("b", .string "2")])]),
        ("s", .mapping [("x", .mapping [])])] :=
    parse_of_nodup hscan' hplacements' (by decide)
  have hstart : ∀ line ∈ (linesOf "; next\n[t]\nb = 2\n[s@x]\n").head?, line.indented = false := by
    decide
  exact (parse_append (.inr ⟨"[s]\na = 1", rfl⟩) hstart hfirst hsecond).1
    (List.disjoint_left.mpr (by decide))

end Ini

end ConfigTree
