import Mathlib.Data.List.Nodup
import ConfigTree.Ini.Document
import ConfigTree.Proofs.Runs

set_option relaxedAutoImplicit false
set_option autoImplicit false

/-!
# The layout of an INI text

Lines are scanned one after the other, and what a line means depends on those before it: an indented
line continues the option above it, if there is one in its block. This file says, without a scan,
which lines make up which blocks: a header line, and below it the lines of one option after the
other. A scan succeeds exactly for the lines that have such a layout, and the blocks are those of the
layout.

## Main definitions

* `ConfigTree.Ini.continued` — the value of an option with the lines that continue it.
* `ConfigTree.Ini.Flush` — the first of some lines is not indented.
* `ConfigTree.Ini.Below` — lines that make up some options.
* `ConfigTree.Ini.Layout` — lines that make up some blocks.
* `ConfigTree.Ini.Scanned` — lines that make up further options of a block and further blocks.

## Main results

* `ConfigTree.Ini.scanLine_cons_eq_ok_iff` — what one line can do.
* `ConfigTree.Ini.Layout.foldlM_scanLine`, `ConfigTree.Ini.exists_scanned` — the runs over some lines.
* `ConfigTree.Ini.scan_eq_ok_iff` — a scan finds exactly the blocks of a layout.

## Implementation notes

While lines are scanned, the newest block and its newest option stand first. The lemmas about runs
therefore speak of reversed lists.
-/

namespace ConfigTree.Ini

/-! ## Layouts -/

/-- The value of an option whose first line holds `first` and which the lines `more` continue. -/
def continued (first : String) (more : List Line) : String :=
  more.foldl (fun value line => value ++ "\n" ++ String.ofList line.text) first

/-- The first line is not indented, if there is one. -/
def Flush (lines : List Line) : Prop :=
  ∀ line ∈ lines.head?, line.indented = false

/-- The lines make up these options, each with all the indented lines that follow it. -/
inductive Below : List Line → Table String → Prop where
  /-- No lines make up no options. -/
  | nil : Below [] []
  /-- A line with a key starts an option, which indented lines continue. -/
  | option {line : Line} {more rest : List Line} {key first : String} {options : Table String}
      (hheader : headerOf? line.text = none) (hoption : optionOf line.text = .ok (key, first))
      (hmore : ∀ l ∈ more, l.indented = true) (hflush : Flush rest) (hrest : Below rest options) :
      Below (line :: (more ++ rest)) ((key, continued first more) :: options)

/-- The lines make up these blocks, each with a header of its own and with distinct keys. A block with
options ends where a header is not indented. -/
inductive Layout : List Line → List Block → Prop where
  /-- No lines make up no blocks. -/
  | nil : Layout [] []
  /-- A line with a header starts a block, and its options follow. -/
  | block {line : Line} {body rest : List Line} {name : List Char} {options : Table String}
      {blocks : List Block} (hheader : headerOf? line.text = some name) (hname : name ≠ [])
      (hbody : Below body options) (hkeys : options.keys.Nodup)
      (hflush : options ≠ [] → Flush rest)
      (hnew : ∀ block ∈ blocks, block.header ≠ String.ofList name) (hrest : Layout rest blocks) :
      Layout (line :: (body ++ rest)) (⟨String.ofList name, line.number, options⟩ :: blocks)

/-! ## One line -/

variable {line : Line} {block : Block} {earlier next : List Block}

/-- A block is opened exactly if its header is not empty and no block has it yet. -/
lemma openBlock_eq_ok_iff {number : ℕ} {name : List Char} :
    openBlock earlier number name = .ok next ↔
      name ≠ [] ∧ (∀ block ∈ earlier, block.header ≠ String.ofList name) ∧
        next = ⟨String.ofList name, number, []⟩ :: earlier := by
  simp only [openBlock, List.isEmpty_iff]
  split
  · rename_i hempty
    simp [hempty]
  · rename_i hname
    split
    · rename_i hany
      obtain ⟨block, hmem, heq⟩ := List.any_eq_true.mp hany
      simp only [reduceCtorEq, false_iff, not_and]
      exact fun _ hnew => absurd (of_decide_eq_true heq) (hnew block hmem)
    · rename_i hany
      have hnew : ∀ block ∈ earlier, block.header ≠ String.ofList name := by
        intro block hmem heq
        exact hany (List.any_eq_true.mpr ⟨block, hmem, decide_eq_true heq⟩)
      rw [Except.ok.injEq]
      exact ⟨fun h => ⟨hname, hnew, h.symm⟩, fun h => h.2.2.symm⟩

/-- An option is added exactly if the text has a key and a value and the key is new in the block. -/
lemma addOption_eq_ok_iff {text : List Char} :
    addOption (block :: earlier) text = .ok next ↔
      ∃ key value, optionOf text = .ok (key, value) ∧ key ∉ block.options.keys ∧
        next = { block with options := (key, value) :: block.options } :: earlier := by
  rw [addOption]
  cases hoption : optionOf text with
  | error fault => simp
  | ok option =>
    obtain ⟨key, value⟩ := option
    simp only [Except.ok.injEq, Prod.mk.injEq]
    cases hkey : block.options.get? key with
    | some existing =>
      have hmem : key ∈ block.options.keys := Table.mem_keys_of_mem (Table.mem_of_get? hkey)
      simp only [reduceCtorEq, false_iff]
      rintro ⟨_, _, ⟨rfl, rfl⟩, hnew, -⟩
      exact hnew hmem
    | none =>
      have hnew := Table.get?_eq_none_iff.mp hkey
      rw [Except.ok.injEq]
      constructor
      · rintro rfl
        exact ⟨key, value, ⟨rfl, rfl⟩, hnew, rfl⟩
      · rintro ⟨_, _, ⟨rfl, rfl⟩, -, rfl⟩
        rfl

/-- A line with a header opens a block, and any other line adds an option to the newest block. -/
lemma addLine_eq_ok_iff :
    addLine (block :: earlier) line = .ok next ↔
      (∃ name, headerOf? line.text = some name ∧ name ≠ [] ∧
        (∀ b ∈ block :: earlier, b.header ≠ String.ofList name) ∧
        next = ⟨String.ofList name, line.number, []⟩ :: block :: earlier) ∨
      ∃ key value, headerOf? line.text = none ∧ optionOf line.text = .ok (key, value) ∧
        key ∉ block.options.keys ∧
        next = { block with options := (key, value) :: block.options } :: earlier := by
  rw [addLine]
  cases headerOf? line.text with
  | none => simp [addOption_eq_ok_iff]
  | some name => simp [openBlock_eq_ok_iff]

/-- A line continues a value, or it is read on its own. -/
lemma scanLine_eq_ok_iff {blocks : List Block} :
    scanLine blocks line = .ok next ↔
      (line.indented = true ∧ continueOption? line.text blocks = some next) ∨
      (line.indented = true → continueOption? line.text blocks = none) ∧
        addLine blocks line = .ok next := by
  rw [scanLine]
  cases line.indented with
  | false =>
    simp only [Bool.false_eq_true, if_false, false_and, false_imp_iff, true_and, false_or]
    cases addLine blocks line <;> simp
  | true =>
    simp only [if_true, true_and, true_imp_iff]
    cases continueOption? line.text blocks with
    | some continued => simp
    | none => cases addLine blocks line <;> simp

/-- **What one line can do** below a header: it continues the newest option, opens a block or adds an
option. It does not continue an option if it is not indented, or if the block has none. -/
lemma scanLine_cons_eq_ok_iff :
    scanLine (block :: earlier) line = .ok next ↔
      (∃ key value options, block.options = (key, value) :: options ∧ line.indented = true ∧
        next = { block with
          options := (key, value ++ "\n" ++ String.ofList line.text) :: options } :: earlier) ∨
      (block.options ≠ [] → line.indented = false) ∧ addLine (block :: earlier) line = .ok next := by
  obtain ⟨header, number, options⟩ := block
  rw [scanLine_eq_ok_iff]
  cases options with
  | nil => simp [continueOption?]
  | cons option options =>
    obtain ⟨key, value⟩ := option
    cases line.indented <;> simp [continueOption?, eq_comm (a := next)]

/-- The first line opens a block. -/
lemma scanLine_nil_eq_ok_iff :
    scanLine [] line = .ok next ↔ ∃ name, headerOf? line.text = some name ∧ name ≠ [] ∧
      next = [⟨String.ofList name, line.number, []⟩] := by
  rw [scanLine_eq_ok_iff, addLine]
  cases headerOf? line.text with
  | none => simp [continueOption?, addOption]
  | some name => simp [continueOption?, openBlock_eq_ok_iff]

/-! ## From a layout to its blocks -/

variable {lines body rest more : List Line} {blocks : List Block} {options : Table String}

/-- A run over lines goes on after the first of them. -/
lemma foldlM_scanLine_cons {state : List Block} (h : scanLine state line = .ok next) :
    (line :: lines).foldlM scanLine state = lines.foldlM scanLine next := by
  rw [List.foldlM_cons, h]
  rfl

/-- A run over lines goes on after any number of them. -/
lemma foldlM_scanLine_append {state : List Block} (h : more.foldlM scanLine state = .ok next) :
    (more ++ lines).foldlM scanLine state = lines.foldlM scanLine next := by
  rw [List.foldlM_append, h]
  rfl

/-- Indented lines continue the newest option. -/
lemma foldlM_scanLine_continued (hmore : ∀ l ∈ more, l.indented = true) (header : String)
    (number : ℕ) (key first : String) (options : Table String) (earlier : List Block) :
    more.foldlM scanLine (⟨header, number, (key, first) :: options⟩ :: earlier) =
      .ok (⟨header, number, (key, continued first more) :: options⟩ :: earlier) := by
  induction more generalizing first with
  | nil => rfl
  | cons line more ih =>
    obtain ⟨hline, hmore⟩ := List.forall_mem_cons.mp hmore
    have hcontinue : scanLine (⟨header, number, (key, first) :: options⟩ :: earlier) line = .ok _ :=
      scanLine_cons_eq_ok_iff.mpr (.inl ⟨key, first, options, rfl, hline, rfl⟩)
    rw [foldlM_scanLine_cons hcontinue, ih hmore]
    rfl

/-- **The lines of some options** add these options to a block with other keys.

**Proof sketch.** Induction on the options; each of them takes its first line and the lines that
continue it. -/
lemma Below.foldlM_scanLine (h : Below body options) (header : String) (number : ℕ)
    (earlier : List Block) :
    ∀ done : Table String, (done ≠ [] → Flush body) → (options.keys ++ done.keys).Nodup →
      body.foldlM scanLine (⟨header, number, done⟩ :: earlier) =
        .ok (⟨header, number, options.reverse ++ done⟩ :: earlier) := by
  induction h with
  | nil => exact fun done _ _ => rfl
  | @option line more rest key first options hheader hoption hmore hflush _ ih =>
    intro done hdone hkeys
    have hline : done ≠ [] → line.indented = false := fun h => hdone h line rfl
    rw [Table.keys_cons, List.cons_append] at hkeys
    have hkey : key ∉ done.keys :=
      fun hmem => (List.nodup_cons.mp hkeys).1 (List.mem_append_right _ hmem)
    have hadd : scanLine (⟨header, number, done⟩ :: earlier) line =
        .ok (⟨header, number, (key, first) :: done⟩ :: earlier) :=
      scanLine_cons_eq_ok_iff.mpr (.inr ⟨hline, addLine_eq_ok_iff.mpr
        (.inr ⟨key, first, hheader, hoption, hkey, rfl⟩)⟩)
    have hrest : (options.keys ++ Table.keys ((key, continued first more) :: done)).Nodup :=
      List.nodup_middle.mpr hkeys
    rw [foldlM_scanLine_cons hadd, foldlM_scanLine_append
      (foldlM_scanLine_continued hmore header number key first done earlier),
      ih _ (fun _ => hflush) hrest]
    simp

/-- A header opens a block. -/
lemma scanLine_of_header {name : List Char} (hheader : headerOf? line.text = some name)
    (hname : name ≠ []) (hnew : ∀ block ∈ earlier, block.header ≠ String.ofList name)
    (hflush : ∀ block ∈ earlier.head?, block.options ≠ [] → line.indented = false) :
    scanLine earlier line = .ok (⟨String.ofList name, line.number, []⟩ :: earlier) := by
  cases earlier with
  | nil => exact scanLine_nil_eq_ok_iff.mpr ⟨name, hheader, hname, rfl⟩
  | cons block earlier =>
    exact scanLine_cons_eq_ok_iff.mpr (.inr ⟨hflush block rfl, addLine_eq_ok_iff.mpr
      (.inl ⟨name, hheader, hname, hnew, rfl⟩)⟩)

/-- **The lines of a layout** add its blocks to others with different headers.

**Proof sketch.** Induction on the blocks; each of them takes its header and the lines of its
options. -/
lemma Layout.foldlM_scanLine (h : Layout lines blocks) :
    ∀ earlier : List Block, (∀ block ∈ earlier.head?, block.options ≠ [] → Flush lines) →
      (∀ block ∈ blocks, ∀ b ∈ earlier, b.header ≠ block.header) →
      lines.foldlM scanLine earlier = .ok ((blocks.map Block.inOrder).reverse ++ earlier) := by
  induction h with
  | nil => exact fun earlier _ _ => rfl
  | @block line body rest name options blocks hheader hname hbody hkeys hflush hnew _ ih =>
    intro earlier hearlier hheaders
    obtain ⟨hthis, hheaders⟩ := List.forall_mem_cons.mp hheaders
    have hopen := scanLine_of_header hheader hname hthis fun b hb h => hearlier b hb h line rfl
    have hadd := hbody.foldlM_scanLine (String.ofList name) line.number earlier []
      (fun h => absurd rfl h) (by simpa using hkeys)
    rw [List.append_nil] at hadd
    rw [foldlM_scanLine_cons hopen, foldlM_scanLine_append hadd, ih]
    · simp [Block.inOrder]
    · rintro block hblock hoptions
      obtain rfl := Option.some.inj hblock
      exact hflush (by simpa using hoptions)
    · intro block hblock b hb
      rcases List.mem_cons.mp hb with rfl | hb
      · exact (hnew block hblock).symm
      · exact hheaders block hblock b hb

/-- The lines of the blocks stand in the order of the source. -/
lemma Layout.sublist_number (h : Layout lines blocks) :
    (blocks.map Block.line).Sublist (lines.map Line.number) := by
  induction h with
  | nil => exact .slnil
  | @block line body rest name options blocks _ _ _ _ _ _ _ ih =>
    rw [List.map_cons, List.map_cons, List.map_append]
    exact .cons_cons _ (ih.trans (List.sublist_append_right _ _))

/-! ## From blocks to their layout -/

/-- If lines do not start indented, then neither do the first of them. -/
lemma Flush.of_append (h : Flush (body ++ rest)) : Flush body := by
  cases body with
  | nil => simp [Flush]
  | cons line body => exact h

/-- After all the indented lines at the start, the next line is not indented. -/
lemma flush_dropWhile (lines : List Line) : Flush (lines.dropWhile Line.indented) := by
  intro line hline
  have := List.head?_dropWhile_not Line.indented lines
  rw [hline] at this
  simpa using this

/-- What the lines below a header are, if their run from the block of that header ends in `final`:
first those of further options of this block, and then those of other blocks. -/
structure Scanned (lines : List Line) (block : Block) (earlier final : List Block)
    (options : Table String) (body rest : List Line) (blocks : List Block) : Prop where
  /-- The lines are those of further options, and the rest. -/
  lines_eq : lines = body ++ rest
  /-- The first ones stand below the header and spell the options. -/
  below : Below body options
  /-- Below an option, the rest does not go on with its value. -/
  flush : options ++ block.options ≠ [] → Flush rest
  /-- The keys of the options are distinct. -/
  nodup : options.keys.Nodup
  /-- They are none of the keys that the block has already. -/
  key_not_mem : ∀ key ∈ options.keys, key ∉ block.options.keys
  /-- The rest is a layout of the other blocks. -/
  layout : Layout rest blocks
  /-- Their headers are none of those that came before. -/
  header_ne : ∀ b ∈ blocks, ∀ b' ∈ block :: earlier, b.header ≠ b'.header
  /-- The run ends with the other blocks above the first one, which has the further options. -/
  final_eq : final = (blocks.map Block.inOrder).reverse ++
    { block with options := options.reverse ++ block.options } :: earlier

namespace Scanned

variable {final : List Block} {header : String} {number : ℕ} {done : Table String}

/-- No lines below a header leave its block as it is. -/
lemma nil : Scanned [] block earlier (block :: earlier) [] [] [] [] where
  lines_eq := rfl
  below := .nil
  flush := by simp [Flush]
  nodup := List.nodup_nil
  key_not_mem := by simp
  layout := .nil
  header_ne := by simp
  final_eq := rfl

/-- A header ends the options of the block before it. -/
lemma of_header {name : List Char} (hheader : headerOf? line.text = some name) (hname : name ≠ [])
    (hnew : ∀ b ∈ block :: earlier, b.header ≠ String.ofList name)
    (hline : block.options ≠ [] → line.indented = false)
    (h : Scanned lines ⟨String.ofList name, line.number, []⟩ (block :: earlier) final options body
      rest blocks) :
    Scanned (line :: lines) block earlier final [] [] (line :: lines)
      (⟨String.ofList name, line.number, options⟩ :: blocks) where
  lines_eq := rfl
  below := .nil
  flush := by
    rintro hoptions l hl
    obtain rfl := Option.some.inj hl
    exact hline hoptions
  nodup := List.nodup_nil
  key_not_mem := by simp
  layout := by
    have hflush : options ≠ [] → Flush rest := fun hne => h.flush (by simpa using hne)
    rw [h.lines_eq]
    exact .block hheader hname h.below h.nodup hflush
      (fun b hb => h.header_ne b hb _ List.mem_cons_self) h.layout
  header_ne := by
    refine List.forall_mem_cons.mpr ⟨fun b hb => (hnew b hb).symm, fun b hb b' hb' => ?_⟩
    exact h.header_ne b hb b' (List.mem_cons_of_mem _ hb')
  final_eq := by simp [h.final_eq, Block.inOrder]

/-- An option takes all the indented lines that follow it. -/
lemma of_option {key first : String} (hheader : headerOf? line.text = none)
    (hoption : optionOf line.text = .ok (key, first)) (hkey : key ∉ done.keys)
    (hmore : ∀ l ∈ more, l.indented = true) (hflush : Flush lines)
    (h : Scanned lines ⟨header, number, (key, continued first more) :: done⟩ earlier final options
      body rest blocks) :
    Scanned (line :: (more ++ lines)) ⟨header, number, done⟩ earlier final
      ((key, continued first more) :: options) (line :: (more ++ body)) rest blocks where
  lines_eq := by simp [h.lines_eq]
  below := .option hheader hoption hmore (h.lines_eq ▸ hflush).of_append h.below
  flush _ := h.flush (by simp)
  nodup := List.nodup_cons.mpr ⟨fun hmem => h.key_not_mem key hmem List.mem_cons_self, h.nodup⟩
  key_not_mem := by
    refine List.forall_mem_cons.mpr ⟨hkey, fun k hk hmem => ?_⟩
    exact h.key_not_mem k hk (List.mem_cons_of_mem _ hmem)
  layout := h.layout
  header_ne b hb b' hb' := by
    rcases List.mem_cons.mp hb' with rfl | hb'
    · have hne := h.header_ne b hb _ List.mem_cons_self
      exact hne
    · exact h.header_ne b hb b' (List.mem_cons_of_mem _ hb')
  final_eq := by simp [h.final_eq]

end Scanned

/-- **The lines below a header** have a layout, if they can be scanned.

**Proof sketch.** Induction on the number of lines. A header is the start of the other blocks. An
option takes all the indented lines that follow it, and the next line is not indented. -/
lemma exists_scanned (number : ℕ) (header : String) (done : Table String)
    (earlier final : List Block)
    (h : lines.foldlM scanLine (⟨header, number, done⟩ :: earlier) = .ok final)
    (hdone : done ≠ [] → Flush lines) :
    ∃ options body rest blocks,
      Scanned lines ⟨header, number, done⟩ earlier final options body rest blocks := by
  induction hn : lines.length using Nat.strongRecOn
    generalizing lines header number done earlier with
  | _ n ih =>
    cases lines with
    | nil =>
      obtain rfl := Except.ok.inj h
      exact ⟨[], [], [], [], .nil⟩
    | cons line tail =>
      subst hn
      obtain ⟨next, hnext, h⟩ := bind_eq_ok_iff.mp (List.foldlM_cons.symm.trans h)
      rcases scanLine_cons_eq_ok_iff.mp hnext with ⟨_, _, _, hoptions, hindented, -⟩ | ⟨hline, hadd⟩
      · have hsome : done ≠ [] := by
          rintro rfl
          simp at hoptions
        have hflush : line.indented = false := hdone hsome line rfl
        simp [hindented] at hflush
      rcases addLine_eq_ok_iff.mp hadd with
        ⟨name, hheader, hname, hnew, rfl⟩ | ⟨key, value, hheader, hoption, hkey, rfl⟩
      · obtain ⟨options, body, rest, blocks, hscanned⟩ :=
          ih tail.length (Nat.lt_succ_self _) _ _ _ _ h (fun h => absurd rfl h) rfl
        exact ⟨_, _, _, _, .of_header hheader hname hnew hline hscanned⟩
      · -- the indented lines after the option continue it
        obtain ⟨more, tail', htail, hmore, hflush⟩ : ∃ more tail', tail = more ++ tail' ∧
            (∀ l ∈ more, l.indented = true) ∧ Flush tail' :=
          ⟨_, _, List.takeWhile_append_dropWhile.symm,
            List.all_eq_true.mp List.all_takeWhile, flush_dropWhile tail⟩
        subst htail
        rw [foldlM_scanLine_append (foldlM_scanLine_continued hmore _ _ _ _ _ _)] at h
        have hlength : tail'.length < (line :: (more ++ tail')).length := by
          rw [List.length_cons, List.length_append]
          omega
        obtain ⟨options, body, rest, blocks, hscanned⟩ :=
          ih tail'.length hlength _ _ _ _ h (fun _ => hflush) rfl
        exact ⟨_, _, _, _, .of_option hheader hoption hkey hmore hflush hscanned⟩

/-- Options that are put in order twice are as they were. -/
lemma Block.inOrder_comp_inOrder : Block.inOrder ∘ Block.inOrder = id := by
  funext ⟨header, number, options⟩
  simp [Block.inOrder]

/-- **A scan succeeds** exactly for the lines that have a layout, and finds its blocks.

**Proof sketch.** The first line is a header. What follows it is found by the run from a block without
options (`exists_scanned`); the other way round a layout is run through block by block
(`Layout.foldlM_scanLine`). -/
lemma scan_eq_ok_iff : scan lines = .ok blocks ↔ Layout lines blocks := by
  rw [scan, map_eq_ok_iff]
  constructor
  · rintro ⟨final, h, rfl⟩
    cases lines with
    | nil =>
      obtain rfl := Except.ok.inj h
      exact .nil
    | cons line tail =>
      obtain ⟨next, hnext, h⟩ := bind_eq_ok_iff.mp (List.foldlM_cons.symm.trans h)
      obtain ⟨name, hheader, hname, rfl⟩ := scanLine_nil_eq_ok_iff.mp hnext
      obtain ⟨options, body, rest, blocks, hscanned⟩ :=
        exists_scanned _ _ _ _ _ h fun h => absurd rfl h
      have hflush : options ≠ [] → Flush rest := fun hne => hscanned.flush (by simpa using hne)
      have hlayout := Layout.block hheader hname hscanned.below hscanned.nodup hflush
        (fun b hb => hscanned.header_ne b hb _ List.mem_cons_self) hscanned.layout
      rw [hscanned.lines_eq, hscanned.final_eq]
      simpa [Block.inOrder, Block.inOrder_comp_inOrder] using hlayout
  · intro h
    refine ⟨_, h.foldlM_scanLine [] (by simp) (by simp), ?_⟩
    simp [Block.inOrder_comp_inOrder]

end ConfigTree.Ini
