import ConfigTree.Proofs.Ini.Placement

set_option relaxedAutoImplicit false
set_option autoImplicit false

/-!
# Where an INI text fails

A text can fail while its lines are scanned, and then once more while its blocks are placed. Either
way the failure is found at one line, and the lines up to this one decide it: the lines before it
can be scanned, and with it they fail in the same way, whatever part of the text follows.

## Main definitions

* `ConfigTree.Ini.truncated` — the first lines of a text.
* `ConfigTree.Ini.FailsAt` — the line that decides a failure.

## Main results

* `ConfigTree.Ini.Layout.split` — the lines of the blocks before and after a block.
* `ConfigTree.Ini.exists_failsAt` — every failure is decided by a line.
* `ConfigTree.Ini.parse_error_localized` — an error names the line that decides it.
-/

namespace ConfigTree

namespace Text

/-! ## The first lines of a text -/

/-- The first lines of a text, with their line ends. -/
def firstLines : ℕ → List Char → List Char
  | 0, _ => []
  | _ + 1, [] => []
  | count + 1, '\n' :: rest => '\n' :: firstLines count rest
  | count + 1, c :: rest => c :: firstLines (count + 1) rest

/-- The lines of the first lines of a text, if the current line began with `seen`. -/
lemma linesFrom_firstLines (text : List Char) :
    ∀ (count : ℕ) (seen : List Char),
      linesFrom seen (firstLines (count + 1) text) = (linesFrom seen text).take (count + 1) := by
  induction text with
  | nil =>
    intro count seen
    rw [firstLines, linesFrom]
    split <;> simp
  | cons c rest ih =>
    intro count seen
    by_cases hc : c = '\n'
    · subst hc
      rw [firstLines, linesFrom, linesFrom, List.take_succ_cons]
      cases count with
      | zero => simp [firstLines, linesFrom]
      | succ count => rw [ih]
    · rw [firstLines, linesFrom, linesFrom, ih]
      all_goals exact hc

/-- The lines of the first lines of a text are the first ones of its lines. -/
lemma lines_firstLines (count : ℕ) (text : List Char) :
    lines (firstLines count text) = (lines text).take count := by
  cases count with
  | zero => simp [firstLines, lines, linesFrom]
  | succ count => exact linesFrom_firstLines text count []

end Text

namespace Ini

/-- The text made of the first `count` lines of a text. -/
def truncated (count : ℕ) (text : String) : String :=
  String.ofList (Text.firstLines count text.toList)

/-- The first lines end with their line feeds, and a carriage return before one of these stays. -/
example : truncated 2 "[s]\r\na = 1\n[t]\n" = "[s]\r\na = 1\n" := by
  decide

/-- The lines that mean something among the first raw lines are those with the numbers of these. -/
lemma linesFrom_take (raws : List (List Char)) :
    ∀ number count : ℕ, linesFrom number (raws.take count) =
      (linesFrom number raws).takeWhile fun line => line.number < number + count := by
  induction raws with
  | nil => simp [linesFrom]
  | cons raw raws ih =>
    intro number count
    cases count with
    | zero =>
      symm
      rw [List.take_zero, linesFrom, List.takeWhile_eq_nil_iff]
      intro hlength
      have hmem := List.getElem_mem hlength
      simpa using (exists_of_mem_linesFrom hmem).1
    | succ count =>
      have hfirst : ∀ line ∈ (Line.ofRaw? number raw).toList,
          decide (line.number < number + (count + 1)) = true := by
        intro line hline
        obtain ⟨-, -, rfl⟩ := Line.ofRaw?_eq_some_iff.mp (Option.mem_toList.mp hline)
        simp
      rw [List.take_succ_cons, linesFrom, linesFrom, List.takeWhile_append_of_pos hfirst, ih,
        Nat.add_right_comm, Nat.add_assoc]

/-- **The lines of the first lines of a text** are those up to the given number. -/
lemma linesOf_truncated (count : ℕ) (text : String) :
    linesOf (truncated count text) =
      (linesOf text).takeWhile fun line => line.number < 1 + count := by
  rw [linesOf, truncated, String.toList_ofList, Text.lines_firstLines, linesFrom_take]
  rfl

/-- A line that means something is one of the lines of the text. -/
lemma number_of_mem_linesOf {text : String} {line : Line} (h : line ∈ linesOf text) :
    1 ≤ line.number ∧ line.number ≤ (Text.lines text.toList).length := by
  refine ⟨(exists_of_mem_linesFrom h).1, ?_⟩
  have hall := linesFrom_take (Text.lines text.toList) 1 (Text.lines text.toList).length
  rw [List.take_length, eq_comm, List.takeWhile_eq_self_iff] at hall
  have hlt := of_decide_eq_true (hall line h)
  omega

/-! ## Failures while lines are scanned and while blocks are placed -/

/-- The document that some lines denote. -/
def readLines (lines : List Line) : Except Failure Document :=
  scan lines >>= Document.ofBlocks

/-- A text denotes what its lines denote. -/
lemma read_eq_readLines (text : String) : read text = readLines (linesOf text) := rfl

variable {lines before after : List Line} {line : Line} {state : List Block} {block : Block}
  {blocks rest : List Block} {document : Document} {failure : Failure}

/-- A failure of a line is found at its number. -/
lemma line_of_scanLine (h : scanLine state line = .error failure) :
    failure.line = line.number := by
  unfold scanLine at h
  split at h
  · cases h
  · split at h
    · cases h
    · cases h
      rfl

/-- A scan fails exactly if some line fails after the lines before it. -/
lemma scan_eq_error_iff : scan lines = .error failure ↔
    ∃ before line after state, lines = before ++ line :: after ∧
      before.foldlM scanLine [] = .ok state ∧ scanLine state line = .error failure := by
  rw [scan, map_eq_error_iff, foldlM_eq_error_iff]

/-- The options of a block do not decide whether it can be placed. -/
lemma map_place (options : Table String) :
    (document.place { block with options := options }).map (fun _ => ()) =
      (document.place block).map fun _ => () := by
  simp only [Document.place]
  cases splitHeader block.header with
  | error fault => rfl
  | ok names =>
    obtain ⟨sectionName, named⟩ := names
    by_cases htaken : (((document.get? sectionName).getD []).get?
        (named.getD defaultSubsection)).isSome = true
    · simp only [htaken, if_true]
    · simp only [htaken]
      rfl

/-- A block that cannot be placed is reported at the line of its header, whatever its options are. -/
lemma placeAt_eq_error_iff : document.placeAt block = .error failure ↔
    failure.line = block.line ∧ document.place block = .error failure.fault := by
  obtain ⟨line, fault⟩ := failure
  rw [Document.placeAt]
  cases document.place block <;> simp [eq_comm]

/-- The failure to place a block is the same with any options. -/
lemma placeAt_with_options (h : document.placeAt block = .error failure) (options : Table String) :
    document.placeAt { block with options := options } = .error failure := by
  obtain ⟨hline, hplace⟩ := placeAt_eq_error_iff.mp h
  refine placeAt_eq_error_iff.mpr ⟨hline, map_eq_error_iff.mp ((map_place options).trans ?_)⟩
  exact map_eq_error_iff.mpr hplace

/-- Placing blocks fails exactly if some block fails after the blocks before it. -/
lemma ofBlocks_eq_error_iff : Document.ofBlocks blocks = .error failure ↔
    ∃ before block after document, blocks = before ++ block :: after ∧
      Document.ofBlocks before = .ok document ∧ document.placeAt block = .error failure :=
  foldlM_eq_error_iff

/-! ## The lines before and after a header -/

/-- **The lines before a header** have their own layout, and so have these lines with the header.

**Proof sketch.** Induction on the blocks before the header; each of them ends before the next one. -/
lemma Layout.split {earlier later : List Block} :
    ∀ {lines : List Line}, Layout lines (earlier ++ block :: later) →
      ∃ before line after, lines = before ++ line :: after ∧ line.number = block.line ∧
        Layout before earlier ∧
        Layout (before ++ [line]) (earlier ++ [{ block with options := [] }]) := by
  induction earlier with
  | nil =>
    rintro _ (_ | @⟨line, body, rest, name, options, _, hheader, hname, -, -, -, -, -⟩)
    refine ⟨[], line, body ++ rest, rfl, rfl, .nil, ?_⟩
    exact .block hheader hname .nil List.nodup_nil (fun h => absurd rfl h) (by simp) .nil
  | cons first earlier ih =>
    rintro _ (_ | @⟨first, body, rest, name, options, _, hheader, hname, hbody, hkeys, hflush, hnew,
      hrest⟩)
    obtain ⟨before, line, after, rfl, hnumber, hbefore, hwith⟩ := ih hrest
    obtain ⟨hearlier, hblock⟩ := List.forall_mem_append.mp hnew
    have hflush' : options ≠ [] → Flush (before ++ [line]) := by
      intro hne
      have hall : Flush ((before ++ [line]) ++ after) := by simpa using hflush hne
      exact hall.of_append
    refine ⟨first :: (body ++ before), line, after, by simp, hnumber, ?_, ?_⟩
    · exact .block hheader hname hbody hkeys (fun hne => (hflush' hne).of_append) hearlier hbefore
    · have hlayout := Layout.block hheader hname hbody hkeys hflush'
        (List.forall_mem_append.mpr ⟨hearlier, by simpa using hblock block List.mem_cons_self⟩) hwith
      simpa using hlayout

/-- **A block stays where its header is**, whatever part of its options and of the further lines is
scanned. -/
lemma scan_of_prefix {earlier : List Block}
    (hbefore : Layout (before ++ [line]) (earlier ++ [{ block with options := [] }]))
    (hscan : scan (before ++ line :: after) = .ok blocks) {more : List Line} (hmore : more <+: after) :
    ∃ options later, scan (before ++ line :: more) =
      .ok (earlier ++ { block with options := options } :: later) := by
  obtain ⟨final, hrun, -⟩ := map_eq_ok_iff.mp hscan
  obtain ⟨rest, rfl⟩ := hmore
  have hheader := hbefore.foldlM_scanLine [] (by simp) (by simp)
  have hstate : ((earlier ++ [{ block with options := [] }]).map Block.inOrder).reverse ++ [] =
      { block with options := [] } :: (earlier.map Block.inOrder).reverse := by
    simp [Block.inOrder]
  rw [hstate] at hheader
  rw [List.append_cons, ← List.append_assoc, List.foldlM_append, foldlM_scanLine_append hheader,
    bind_eq_ok_iff] at hrun
  obtain ⟨reached, hreached, -⟩ := hrun
  obtain ⟨options, body, tail, later, hscanned⟩ :=
    exists_scanned _ _ _ _ _ hreached fun h => absurd rfl h
  refine ⟨options, later, ?_⟩
  rw [scan, List.append_cons, foldlM_scanLine_append hheader, hreached, hscanned.final_eq]
  simp [Except.map, Block.inOrder, Block.inOrder_comp_inOrder]

/-! ## The line that decides a failure -/

/-- The lines `before` are scanned without a failure, and with `line` after them they fail, whatever
part of the lines `after` follows. -/
structure FailsAt (before : List Line) (line : Line) (after : List Line) (failure : Failure) :
    Prop where
  /-- The failure is reported at the number of the line. -/
  number_eq : line.number = failure.line
  /-- The lines before it are scanned. -/
  scan_before : ∃ blocks, scan before = .ok blocks
  /-- If the line can be scanned as well, the lines before it denote a document. -/
  readLines_before : (∃ blocks, scan (before ++ line :: after) = .ok blocks) →
    ∃ document, readLines before = .ok document
  /-- The failure does not depend on the lines that follow. -/
  readLines_eq : ∀ more, more <+: after → readLines (before ++ line :: more) = .error failure

namespace FailsAt

/-- A line that cannot be scanned decides the failure. -/
lemma of_scanLine (hbefore : before.foldlM scanLine [] = .ok state)
    (hline : scanLine state line = .error failure) (after : List Line) :
    FailsAt before line after failure := by
  have hscan : ∀ more, scan (before ++ line :: more) = .error failure := fun more =>
    scan_eq_error_iff.mpr ⟨before, line, more, state, rfl, hbefore, hline⟩
  refine ⟨(line_of_scanLine hline).symm, ⟨_, map_eq_ok_iff.mpr ⟨state, hbefore, rfl⟩⟩, ?_, ?_⟩
  · rintro ⟨blocks, hblocks⟩
    rw [hscan after] at hblocks
    cases hblocks
  · intro more _
    rw [readLines, hscan more]
    rfl

/-- The header of a block that cannot be placed decides the failure. -/
lemma of_placeAt {earlier : List Block} (hnumber : line.number = block.line)
    (hearlier : Layout before earlier)
    (hheader : Layout (before ++ [line]) (earlier ++ [{ block with options := [] }]))
    (hscan : scan (before ++ line :: after) = .ok blocks)
    (hplaced : Document.ofBlocks earlier = .ok document)
    (hblock : document.placeAt block = .error failure) : FailsAt before line after failure := by
  have hbefore : scan before = .ok earlier := scan_eq_ok_iff.mpr hearlier
  refine ⟨hnumber.trans (placeAt_eq_error_iff.mp hblock).1.symm, ⟨earlier, hbefore⟩, fun _ => ?_,
    fun more hmore => ?_⟩
  · exact ⟨document, bind_eq_ok_iff.mpr ⟨earlier, hbefore, hplaced⟩⟩
  · obtain ⟨options, later, hmore⟩ := scan_of_prefix hheader hscan hmore
    rw [readLines, hmore]
    exact ofBlocks_eq_error_iff.mpr
      ⟨earlier, _, later, document, rfl, hplaced, placeAt_with_options hblock options⟩

end FailsAt

/-- **Every failure is decided by a line.** -/
lemma exists_failsAt (h : readLines lines = .error failure) :
    ∃ before line after, lines = before ++ line :: after ∧ FailsAt before line after failure := by
  rw [readLines] at h
  cases hscan : scan lines with
  | error e =>
    rw [hscan] at h
    cases h
    obtain ⟨before, line, after, state, rfl, hbefore, hline⟩ := scan_eq_error_iff.mp hscan
    exact ⟨before, line, after, rfl, .of_scanLine hbefore hline after⟩
  | ok blocks =>
    rw [hscan] at h
    obtain ⟨earlier, block, later, document, rfl, hplaced, hblock⟩ := ofBlocks_eq_error_iff.mp h
    obtain ⟨before, line, after, rfl, hnumber, hearlier, hheader⟩ :=
      (scan_eq_ok_iff.mp hscan).split
    exact ⟨before, line, after, rfl, .of_placeAt hnumber hearlier hheader hscan hplaced hblock⟩

/-! ## Errors of a text -/

variable {text source : String}

/-- The first lines of a text, up to a line or just before it. -/
lemma linesOf_truncated_of_split (hlines : linesOf text = before ++ line :: after) :
    (∀ count, line.number ≤ count → ∃ more, more <+: after ∧
      linesOf (truncated count text) = before ++ line :: more) ∧
    linesOf (truncated (line.number - 1) text) = before := by
  have hsorted := pairwise_number_linesOf text
  rw [hlines, List.map_append, List.pairwise_append] at hsorted
  have hbelow : ∀ l ∈ before, l.number < line.number := fun l hl =>
    hsorted.2.2 _ (List.mem_map_of_mem hl) _ List.mem_cons_self
  have hmem : line ∈ linesOf text := by simp [hlines]
  have hfirst : 1 ≤ line.number := (number_of_mem_linesOf hmem).1
  have hpass : ∀ count, line.number ≤ count + 1 →
      ∀ l ∈ before, decide (l.number < 1 + count) = true := by
    intro count hcount l hl
    have := hbelow l hl
    simp only [decide_eq_true_eq]
    omega
  constructor
  · intro count hcount
    refine ⟨_, List.takeWhile_prefix fun l => decide (l.number < 1 + count), ?_⟩
    rw [linesOf_truncated, hlines, List.takeWhile_append_of_pos (hpass count (by omega)),
      List.takeWhile_cons_of_pos (by simp only [decide_eq_true_eq]; omega)]
  · rw [linesOf_truncated, hlines, List.takeWhile_append_of_pos (hpass _ (by omega)),
      List.takeWhile_cons_of_neg (by simp only [decide_eq_true_eq]; omega), List.append_nil]

/-- The errors of a text are the failures of its lines, reported in its source. -/
lemma parse_eq_error_iff {e : Error} : parse text source = .error e ↔
    ∃ failure, readLines (linesOf text) = .error failure ∧ e = failure.toError source := by
  rw [parse, read_eq_readLines]
  cases readLines (linesOf text) <;> simp [eq_comm]

/-- **An error names the line that decides it.** An error of a text carries the name of the source
and the number of one of the lines of the text. The text up to this line, and every longer part of
the text, has the same error. The text before this line can be scanned, and if the whole text can be
scanned, it even denotes a mapping.

**Proof sketch.** The failure is decided by a line (`exists_failsAt`). As the numbers of the lines
increase, the first lines of the text are those before it, the line itself and a part of the lines
after it (`linesOf_truncated_of_split`). -/
theorem parse_error_localized {e : Error} (h : parse text source = .error e) :
    ∃ n, e.location = some ⟨source, some n⟩ ∧ 1 ≤ n ∧ n ≤ (Text.lines text.toList).length ∧
      (∀ count, n ≤ count → parse (truncated count text) source = .error e) ∧
      (∃ blocks, scan (linesOf (truncated (n - 1) text)) = .ok blocks) ∧
      ((∃ blocks, scan (linesOf text) = .ok blocks) →
        ∃ mapping, parse (truncated (n - 1) text) source = .ok mapping) := by
  obtain ⟨failure, hread, rfl⟩ := parse_eq_error_iff.mp h
  obtain ⟨before, line, after, hlines, hfails⟩ := exists_failsAt hread
  have hmem : line ∈ linesOf text := by simp [hlines]
  obtain ⟨hfirst, hlast⟩ := number_of_mem_linesOf hmem
  obtain ⟨hfrom, hbefore⟩ := linesOf_truncated_of_split hlines
  have hlocation : (failure.toError source).location = some ⟨source, some line.number⟩ := by
    rw [hfails.number_eq]
    rfl
  refine ⟨line.number, hlocation, hfirst, hlast, fun count hcount => ?_, ?_, fun hscan => ?_⟩
  · obtain ⟨more, hmore, htruncated⟩ := hfrom count hcount
    exact parse_eq_error_iff.mpr ⟨failure, htruncated ▸ hfails.readLines_eq more hmore, rfl⟩
  · rw [hbefore]
    exact hfails.scan_before
  · rw [hlines] at hscan
    obtain ⟨document, hdocument⟩ := hfails.readLines_before hscan
    exact ⟨_, by rw [parse, read_eq_readLines, hbefore, hdocument]⟩

/-- A text whose second header names the place of the first one. -/
def repeatedPlace : String :=
  "[s]\na = 1\n[s@main]\nb = 2\n"

/-- The text fails at its third line, and so do its first three lines; the first two lines denote a
mapping. -/
theorem parse_error_localized_subsection :
    parse repeatedPlace "app.ini" =
        .error ((Error.duplicateSubsection "s" "main").withLocation ⟨"app.ini", some 3⟩) ∧
      parse (truncated 3 repeatedPlace) "app.ini" =
        .error ((Error.duplicateSubsection "s" "main").withLocation ⟨"app.ini", some 3⟩) ∧
      ∃ mapping, parse (truncated 2 repeatedPlace) "app.ini" = .ok mapping := by
  have hscan : scan (linesOf repeatedPlace) =
      .ok [⟨"s", 1, [("a", "1")]⟩, ⟨"s@main", 3, [("b", "2")]⟩] := by
    decide
  have hplacements : [(⟨"s", 1, [("a", "1")]⟩ : Block), ⟨"s@main", 3, [("b", "2")]⟩].mapM
      Block.placement = .ok [⟨"s", none, 1, [("a", "1")]⟩, ⟨"s", some "main", 3, [("b", "2")]⟩] := by
    decide
  have hsplit : [(⟨"s", none, 1, [("a", "1")]⟩ : Placement), ⟨"s", some "main", 3, [("b", "2")]⟩] =
      [⟨"s", none, 1, [("a", "1")]⟩] ++ ⟨"s", some "main", 3, [("b", "2")]⟩ :: [] := rfl
  have h : parse repeatedPlace "app.ini" =
      .error ((Error.duplicateSubsection "s" "main").withLocation ⟨"app.ini", some 3⟩) :=
    parse_of_taken hscan hplacements hsplit (by decide) (by decide)
  obtain ⟨n, hlocation, -, -, hfrom, -, hbefore⟩ := parse_error_localized h
  obtain rfl : 3 = n := by simpa [Error.withLocation] using hlocation
  exact ⟨h, hfrom 3 le_rfl, hbefore ⟨_, hscan⟩⟩

end Ini

end ConfigTree
