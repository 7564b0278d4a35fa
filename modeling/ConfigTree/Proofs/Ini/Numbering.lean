import ConfigTree.Proofs.Ini.Failure

set_option relaxedAutoImplicit false
set_option autoImplicit false

/-!
# The numbers of lines

The number of a line is kept with the block that it opens and with the failure that is found at it,
and nothing else depends on it. So lines with other numbers denote the same document, or they fail in
the same way at a line with another number.

## Main definitions

* `ConfigTree.Ini.Line.renumber`, `ConfigTree.Ini.Block.renumber`,
  `ConfigTree.Ini.Failure.renumber` — a line, a block and a failure with another number.

## Main results

* `ConfigTree.Ini.scanLine_renumber`, `ConfigTree.Ini.scan_renumber` — the scan of renumbered lines.
* `ConfigTree.Ini.readLines_renumber` — the document of renumbered lines.
-/

namespace ConfigTree.Ini

/-- The line with another number. -/
def Line.renumber (f : ℕ → ℕ) (line : Line) : Line :=
  { line with number := f line.number }

/-- The block with another number for its header. -/
def Block.renumber (f : ℕ → ℕ) (block : Block) : Block :=
  { block with line := f block.line }

/-- The failure at a line with another number. -/
def Failure.renumber (f : ℕ → ℕ) (failure : Failure) : Failure :=
  { failure with line := f failure.line }

variable (f : ℕ → ℕ)

/-! ## Scanning -/

/-- A block is opened in the same way among renumbered blocks. -/
lemma openBlock_renumber (blocks : List Block) (number : ℕ) (header : List Char) :
    openBlock (blocks.map (Block.renumber f)) (f number) header =
      (openBlock blocks number header).map (List.map (Block.renumber f)) := by
  have hany : ((blocks.map (Block.renumber f)).any fun block =>
      block.header = String.ofList header) =
      blocks.any fun block => block.header = String.ofList header := List.any_map
  simp only [openBlock, hany]
  split_ifs <;> rfl

/-- An option is added in the same way to renumbered blocks. -/
lemma addOption_renumber (blocks : List Block) (text : List Char) :
    addOption (blocks.map (Block.renumber f)) text =
      (addOption blocks text).map (List.map (Block.renumber f)) := by
  cases blocks with
  | nil => rfl
  | cons block earlier =>
    rw [List.map_cons, addOption, addOption]
    cases optionOf text with
    | error fault => rfl
    | ok option =>
      obtain ⟨key, value⟩ := option
      have hoptions : (block.renumber f).options = block.options := rfl
      simp only [hoptions]
      cases block.options.get? key <;> rfl

/-- A value is continued in the same way in renumbered blocks. -/
lemma continueOption?_renumber (text : List Char) (blocks : List Block) :
    continueOption? text (blocks.map (Block.renumber f)) =
      (continueOption? text blocks).map (List.map (Block.renumber f)) := by
  rcases blocks with _ | ⟨⟨header, number, _ | ⟨⟨key, value⟩, options⟩⟩, earlier⟩ <;> rfl

/-- A renumbered line without continuation adds the same to renumbered blocks. -/
lemma addLine_renumber (blocks : List Block) (line : Line) :
    addLine (blocks.map (Block.renumber f)) (line.renumber f) =
      (addLine blocks line).map (List.map (Block.renumber f)) := by
  have htext : (line.renumber f).text = line.text := rfl
  rw [addLine, addLine, htext]
  cases headerOf? line.text with
  | none => exact addOption_renumber f blocks line.text
  | some header => exact openBlock_renumber f blocks line.number header

/-- **A renumbered line** adds the same to renumbered blocks. -/
lemma scanLine_renumber (blocks : List Block) (line : Line) :
    scanLine (blocks.map (Block.renumber f)) (line.renumber f) =
      ((scanLine blocks line).map (List.map (Block.renumber f))).mapError (Failure.renumber f) := by
  have htext : (line.renumber f).text = line.text := rfl
  have hcontinued : (if (line.renumber f).indented then
        continueOption? line.text (blocks.map (Block.renumber f)) else none) =
      (if line.indented then continueOption? line.text blocks else none).map
        (List.map (Block.renumber f)) := by
    rw [continueOption?_renumber]
    have hindented : (line.renumber f).indented = line.indented := rfl
    rw [hindented]
    cases line.indented <;> rfl
  rw [scanLine, scanLine, htext, hcontinued, addLine_renumber]
  cases (if line.indented then continueOption? line.text blocks else none) with
  | some continued => rfl
  | none => cases addLine blocks line <;> rfl

/-- **Renumbered lines** make up the renumbered blocks. -/
lemma scan_renumber (lines : List Line) :
    scan (lines.map (Line.renumber f)) =
      ((scan lines).map (List.map (Block.renumber f))).mapError (Failure.renumber f) := by
  have hrun := foldlM_translate (scanLine_renumber f) lines []
  rw [List.map_nil] at hrun
  rw [scan, scan, hrun]
  cases lines.foldlM scanLine [] with
  | error failure => rfl
  | ok state =>
    simp only [Except.map, Except.mapError, List.map_reverse, List.map_map]
    rfl

/-! ## Placing -/

/-- A renumbered block is placed in the same way, or fails at its new number. -/
lemma placeAt_renumber (document : Document) (block : Block) :
    document.placeAt (block.renumber f) =
      (document.placeAt block).mapError (Failure.renumber f) := by
  have hplace : document.place (block.renumber f) = document.place block := rfl
  rw [Document.placeAt, Document.placeAt, hplace]
  cases document.place block <;> rfl

/-- Renumbered blocks make up the same document, or fail at a new number. -/
lemma ofBlocks_renumber (blocks : List Block) :
    Document.ofBlocks (blocks.map (Block.renumber f)) =
      (Document.ofBlocks blocks).mapError (Failure.renumber f) := by
  have hmap : ∀ result : Except Failure Document, result.map id = result := by
    intro result
    cases result <;> rfl
  have hstep : ∀ (document : Document) (block : Block), (id document).placeAt (block.renumber f) =
      ((document.placeAt block).map id).mapError (Failure.renumber f) := by
    intro document block
    rw [hmap]
    exact placeAt_renumber f document block
  have hrun := foldlM_translate hstep blocks []
  rw [hmap] at hrun
  exact hrun

/-- **Renumbered lines** denote the same document, or fail in the same way. -/
lemma readLines_renumber (lines : List Line) :
    readLines (lines.map (Line.renumber f)) =
      (readLines lines).mapError (Failure.renumber f) := by
  rw [readLines, readLines, scan_renumber]
  cases scan lines with
  | error failure => rfl
  | ok blocks => exact ofBlocks_renumber f blocks

end ConfigTree.Ini
