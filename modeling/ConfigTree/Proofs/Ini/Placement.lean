import Mathlib.Data.List.Induction
import Mathlib.Data.List.Nodup
import Mathlib.Logic.Function.Basic
import ConfigTree.Ini.Document
import ConfigTree.Proofs.Ini.Layout
import ConfigTree.Proofs.Ini.Line

set_option relaxedAutoImplicit false
set_option autoImplicit false

/-!
# The places of INI blocks

A header names a section and a subsection, and differently written headers may name the same two. The
blocks of a text go to the places that their headers name, one after the other. This file says what
becomes of them without running through the blocks: if all places are distinct, the document groups
the blocks by their sections, and otherwise the first block whose place is taken is reported.

## Main definitions

* `ConfigTree.Ini.Placement` — a block with the place that its header names.
* `ConfigTree.Ini.Document.grouped` — placed blocks, grouped by their sections.

## Main results

* `ConfigTree.Ini.Document.placeAt_grouped_eq_ok_iff` — when one more block finds its place free.
* `ConfigTree.Ini.Document.ofBlocks_eq_ok_iff` — when all blocks do.
* `ConfigTree.Ini.parse_placements` — blocks are neither lost nor merged nor overwritten.
-/

namespace ConfigTree

namespace Table

variable {α : Type}

/-! ## Tables over given keys -/

/-- The table with the given keys and the content that `f` has for each of them. -/
def tabulate (keys : List String) (f : String → α) : Table α :=
  keys.map fun key => (key, f key)

/-- A table over some keys starts with the content of the first one. -/
@[simp] lemma tabulate_cons (key : String) (rest : List String) (f : String → α) :
    tabulate (key :: rest) f = (key, f key) :: tabulate rest f := rfl

/-- The keys of a table over some keys are these. -/
@[simp] lemma keys_tabulate (keys : List String) (f : String → α) :
    Table.keys (tabulate keys f) = keys := by
  simp [Table.keys, tabulate, Function.comp_def]

/-- A table is that of its keys and contents. -/
lemma tabulate_keys {table : Table α} {f : String → α}
    (h : ∀ key content, (key, content) ∈ table → f key = content) :
    tabulate table.keys f = table := by
  have hentry : ∀ entry ∈ table, (entry.1, f entry.1) = id entry :=
    fun entry hmem => Prod.ext rfl (h entry.1 entry.2 hmem)
  rw [tabulate, Table.keys, List.map_map]
  exact (List.map_congr_left hentry).trans (List.map_id table)

/-- A key finds its content in a table over keys exactly if it is one of these. -/
lemma get?_tabulate (keys : List String) (f : String → α) (key : String) :
    (tabulate keys f).get? key = if key ∈ keys then some (f key) else none := by
  induction keys with
  | nil => rfl
  | cons first rest ih =>
    rw [tabulate_cons, get?, ih]
    by_cases hfirst : first = key
    · simp [hfirst]
    · simp [hfirst, Ne.symm hfirst]

/-- Functions that agree on the keys make up the same table. -/
lemma tabulate_congr {keys : List String} {f g : String → α} (h : ∀ key ∈ keys, f key = g key) :
    tabulate keys f = tabulate keys g :=
  List.map_congr_left fun key hkey => by rw [h key hkey]

/-- A content that is put under a key stands where the key was before, or at the end. -/
lemma put_tabulate {keys : List String} (hkeys : keys.Nodup) (f : String → α) (key : String)
    (content : α) :
    (tabulate keys f).put key content =
      tabulate (if key ∈ keys then keys else keys ++ [key]) (Function.update f key content) := by
  induction keys with
  | nil => simp [tabulate, put]
  | cons first rest ih =>
    obtain ⟨hfirst, hrest⟩ := List.nodup_cons.mp hkeys
    rw [tabulate_cons, put, ih hrest]
    by_cases heq : first = key
    · subst heq
      have hsame : tabulate rest f = tabulate rest (Function.update f first content) :=
        tabulate_congr fun k hk => (Function.update_of_ne (ne_of_mem_of_not_mem hk hfirst) _ _).symm
      rw [if_pos rfl, if_pos List.mem_cons_self, tabulate_cons, Function.update_self, hsame]
    · rw [if_neg heq]
      by_cases hmem : key ∈ rest
      · simp [hmem, heq]
      · simp [hmem, heq, Ne.symm heq]

end Table

namespace Ini

/-! ## Placed blocks -/

/-- A block with the place that its header names. -/
structure Placement where
  /-- The section. -/
  sectionName : String
  /-- The subsection, if the header names one. -/
  named : Option String
  /-- The line of the header. -/
  line : ℕ
  /-- The options below the header. -/
  options : Table String
  deriving DecidableEq

namespace Placement

/-- The subsection: the one that is named, or the default one. -/
def subsectionName (placement : Placement) : String :=
  placement.named.getD defaultSubsection

/-- The place of the block. -/
def pair (placement : Placement) : String × String :=
  (placement.sectionName, placement.subsectionName)

/-- What is wrong with the block if its place is taken. -/
def fault (placement : Placement) : Fault :=
  match placement.named with
  | some name => .repeatedSubsection placement.sectionName name
  | none => .repeatedSection placement.sectionName

/-- The error that says that the place of the block is taken: it names the subsection exactly if the
header does. -/
def taken (placement : Placement) : Error :=
  match placement.named with
  | some name => .duplicateSubsection placement.sectionName name
  | none => .duplicateSection placement.sectionName

/-- A taken place is reported by the error about the section or the subsection. -/
lemma toError_fault (placement : Placement) : placement.fault.toError = placement.taken := by
  unfold fault taken
  cases placement.named <;> rfl

end Placement

/-- The block with the place that its header names. -/
def Block.placement (block : Block) : Except Fault Placement :=
  (splitHeader block.header).map fun (sectionName, named) =>
    ⟨sectionName, named, block.line, block.options⟩

/-- A block is placed exactly if its header names a place; its line and its options stay. -/
lemma Block.placement_eq_ok_iff {block : Block} {placement : Placement} :
    block.placement = .ok placement ↔
      splitHeader block.header = .ok (placement.sectionName, placement.named) ∧
        placement.line = block.line ∧ placement.options = block.options := by
  obtain ⟨sectionName, named, line, options⟩ := placement
  rw [Block.placement, map_eq_ok_iff]
  constructor
  · rintro ⟨⟨_, _⟩, hsplit, heq⟩
    cases heq
    exact ⟨hsplit, rfl, rfl⟩
  · rintro ⟨hsplit, rfl, rfl⟩
    exact ⟨_, hsplit, rfl⟩

namespace Document

/-- The blocks of one section, by their subsections. -/
def under (placements : List Placement) (sectionName : String) : Table (Table String) :=
  (placements.filter fun placement => placement.sectionName = sectionName).map fun placement =>
    (placement.subsectionName, placement.options)

/-- Placed blocks, grouped by their sections: the sections in the order of their first blocks, and
the blocks of each section in their own order. -/
def grouped (placements : List Placement) : Document :=
  Table.tabulate (placements.map Placement.sectionName).eraseDups (under placements)

/-! ## One block -/

variable {placements : List Placement} {placement : Placement} {block : Block} {document : Document}

/-- One more block adds its options under its own section and nothing under other sections. -/
lemma under_append_singleton (placements : List Placement) (placement : Placement) :
    under (placements ++ [placement]) =
      Function.update (under placements) placement.sectionName
        (under placements placement.sectionName ++
          [(placement.subsectionName, placement.options)]) := by
  funext sectionName
  by_cases h : placement.sectionName = sectionName
  · subst h
    simp [under]
  · rw [Function.update_of_ne (Ne.symm h)]
    simp [under, h]

/-- The subsections under a section are those that the headers name together with it. -/
lemma mem_keys_under {sectionName subsectionName : String} :
    subsectionName ∈ (under placements sectionName).keys ↔
      (sectionName, subsectionName) ∈ placements.map Placement.pair := by
  simp only [under, Table.keys, List.map_map, List.mem_map, List.mem_filter, decide_eq_true_eq,
    Placement.pair, Prod.mk.injEq, Function.comp_apply]
  constructor
  · rintro ⟨placement, ⟨hmem, hsection⟩, hsubsection⟩
    exact ⟨placement, hmem, hsection, hsubsection⟩
  · rintro ⟨placement, hmem, hsection, hsubsection⟩
    exact ⟨placement, ⟨hmem, hsection⟩, hsubsection⟩

/-- A name after others is new, or it is one of them. -/
lemma eraseDups_append_singleton (names : List String) (name : String) :
    (names ++ [name]).eraseDups =
      if name ∈ names.eraseDups then names.eraseDups else names.eraseDups ++ [name] := by
  simp only [List.eraseDups_append, List.mem_eraseDups]
  by_cases h : name ∈ names
  · simp [List.removeAll, h]
  · simp [List.removeAll, h, List.eraseDups_cons]

/-- Names without their duplicates are distinct. -/
lemma nodup_eraseDups (names : List String) : names.eraseDups.Nodup := by
  induction names using List.reverseRecOn with
  | nil => simp
  | append_singleton names name ih =>
    rw [eraseDups_append_singleton]
    split
    · exact ih
    · rename_i hname
      exact List.nodup_append'.mpr ⟨ih, List.nodup_singleton name, by simpa using hname⟩

/-- The sections of placed blocks with what stands under them. -/
lemma mem_grouped_iff {placements : List Placement} {name : String}
    {subsections : Table (Table String)} :
    (name, subsections) ∈ grouped placements ↔
      name ∈ placements.map Placement.sectionName ∧ subsections = under placements name := by
  simp only [grouped, Table.tabulate, List.mem_map, Prod.mk.injEq, List.mem_eraseDups]
  constructor
  · rintro ⟨_, hmem, rfl, rfl⟩
    exact ⟨hmem, rfl⟩
  · rintro ⟨hmem, rfl⟩
    exact ⟨_, hmem, rfl, rfl⟩

/-- A section with several blocks stands where its first block does. -/
example :
    grouped [⟨"s", none, 1, []⟩, ⟨"t", none, 2, []⟩, ⟨"s", some "x", 3, [("a", "1")]⟩] =
      [("s", [("main", []), ("x", [("a", "1")])]), ("t", [("main", [])])] := by
  decide

/-- If all places are distinct, then so are the subsections under each section. -/
lemma nodup_keys_under {placements : List Placement} (h : (placements.map Placement.pair).Nodup)
    (name : String) : (under placements name).keys.Nodup := by
  have hfilter := h.sublist ((List.filter_sublist (p := fun p => p.sectionName = name)).map _)
  rw [under, Table.keys, List.map_map]
  refine List.Nodup.of_map (Prod.mk name) ?_
  rw [List.map_map]
  convert hfilter using 1
  refine List.map_congr_left fun placement hplacement => ?_
  obtain rfl : placement.sectionName = name := by simpa using (List.mem_filter.mp hplacement).2
  rfl

/-- A section that has no block yet has nothing under it. -/
lemma under_of_not_mem {sectionName : String}
    (h : sectionName ∉ placements.map Placement.sectionName) : under placements sectionName = [] := by
  rw [under, List.map_eq_nil_iff, List.filter_eq_nil_iff]
  intro placement hplacement heq
  exact h (List.mem_map.mpr ⟨placement, hplacement, of_decide_eq_true heq⟩)

/-- A section of the grouped blocks holds what stands under it. -/
lemma get?_grouped (placements : List Placement) (sectionName : String) :
    ((grouped placements).get? sectionName).getD [] = under placements sectionName := by
  rw [grouped, Table.get?_tabulate]
  split
  · rfl
  · rename_i hmem
    exact (under_of_not_mem (fun h => hmem (List.mem_eraseDups.mpr h))).symm

/-- A block that goes to its place stands after the blocks of its section, and its section stands
where it was or after the others. -/
lemma put_grouped (placements : List Placement) (placement : Placement) :
    (grouped placements).put placement.sectionName
        (under placements placement.sectionName ++
          [(placement.subsectionName, placement.options)]) =
      grouped (placements ++ [placement]) := by
  rw [grouped, Table.put_tabulate (nodup_eraseDups _), grouped, under_append_singleton,
    List.map_append, List.map_singleton, eraseDups_append_singleton]

/-- **What one block does** to the document of other placed blocks. -/
lemma place_grouped (hplacement : block.placement = .ok placement) (placements : List Placement) :
    (grouped placements).place block =
      if placement.pair ∈ placements.map Placement.pair then .error placement.fault
      else .ok (grouped (placements ++ [placement])) := by
  obtain ⟨hsplit, -, hoptions⟩ := Block.placement_eq_ok_iff.mp hplacement
  have htaken : ((under placements placement.sectionName).get? placement.subsectionName).isSome ↔
      placement.pair ∈ placements.map Placement.pair := by
    rw [Option.isSome_iff_ne_none, ne_eq, Table.get?_eq_none_iff, not_not, mem_keys_under,
      Placement.pair]
  have hname : placement.named.getD defaultSubsection = placement.subsectionName := rfl
  rw [place, hsplit]
  simp only [get?_grouped, hname, ← hoptions, htaken]
  split
  · rw [Placement.fault]
    cases placement.named <;> rfl
  · rw [put_grouped]

/-- **A block finds its place free** exactly if its header names a place that no other block has. -/
lemma placeAt_grouped_eq_ok_iff :
    (grouped placements).placeAt block = .ok document ↔
      ∃ placement, block.placement = .ok placement ∧
        placement.pair ∉ placements.map Placement.pair ∧
        document = grouped (placements ++ [placement]) := by
  cases hplacement : block.placement with
  | error fault =>
    have hsplit : splitHeader block.header = .error fault := map_eq_error_iff.mp hplacement
    simp [placeAt, place, hsplit]
  | ok placement =>
    rw [placeAt, place_grouped hplacement]
    simp only [Except.ok.injEq, exists_eq_left']
    by_cases hmem : placement.pair ∈ placements.map Placement.pair
    · simp [hmem]
    · simp [hmem, eq_comm]

/-- A block whose place is taken is reported at the line of its header. -/
lemma placeAt_grouped_of_mem (hplacement : block.placement = .ok placement)
    (hmem : placement.pair ∈ placements.map Placement.pair) :
    (grouped placements).placeAt block = .error ⟨placement.line, placement.fault⟩ := by
  rw [placeAt, place_grouped hplacement, if_pos hmem, (Block.placement_eq_ok_iff.mp hplacement).2.1]

/-! ## All blocks -/

/-- With one more block, the places are distinct exactly if they were before and its place is new. -/
lemma nodup_pair_concat_iff :
    ((placements ++ [placement]).map Placement.pair).Nodup ↔
      (placements.map Placement.pair).Nodup ∧ placement.pair ∉ placements.map Placement.pair := by
  rw [List.map_append, List.nodup_append']
  simp

/-- The run over some blocks after others that are placed.

**Proof sketch.** Induction on the blocks; the first of them is placed after those that are there. -/
lemma foldlM_placeAt_eq_ok_iff {blocks : List Block} :
    ∀ done : List Placement, (done.map Placement.pair).Nodup →
      (blocks.foldlM placeAt (grouped done) = .ok document ↔
        ∃ placements, blocks.mapM Block.placement = .ok placements ∧
          ((done ++ placements).map Placement.pair).Nodup ∧
          document = grouped (done ++ placements)) := by
  induction blocks with
  | nil =>
    intro done hdone
    simpa [pure, Except.pure, eq_comm] using fun _ => hdone
  | cons block blocks ih =>
    intro done hdone
    rw [List.foldlM_cons, bind_eq_ok_iff]
    simp only [List.mapM_cons, bind_eq_ok_iff, placeAt_grouped_eq_ok_iff]
    constructor
    · rintro ⟨_, ⟨placement, hplacement, hnew, rfl⟩, hrun⟩
      have hdone' := nodup_pair_concat_iff.mpr ⟨hdone, hnew⟩
      obtain ⟨placements, hplacements, hnodup, rfl⟩ := (ih _ hdone').mp hrun
      rw [List.append_assoc] at hnodup ⊢
      exact ⟨_, ⟨placement, hplacement, placements, hplacements, rfl⟩, hnodup, rfl⟩
    · rintro ⟨_, ⟨placement, hplacement, placements, hplacements, heq⟩, hnodup, rfl⟩
      obtain rfl := Except.ok.inj heq
      rw [List.append_cons] at hnodup
      have hdone' : ((done ++ [placement]).map Placement.pair).Nodup := by
        rw [List.map_append] at hnodup
        exact (List.nodup_append'.mp hnodup).1
      exact ⟨_, ⟨placement, hplacement, (nodup_pair_concat_iff.mp hdone').2, rfl⟩,
        (ih _ hdone').mpr ⟨placements, hplacements, hnodup, by rw [List.append_cons]⟩⟩

/-- **Blocks make up a document** exactly if their headers name distinct places, and the document
groups them by their sections. -/
lemma ofBlocks_eq_ok_iff {blocks : List Block} :
    ofBlocks blocks = .ok document ↔
      ∃ placements, blocks.mapM Block.placement = .ok placements ∧
        (placements.map Placement.pair).Nodup ∧ document = grouped placements :=
  foldlM_placeAt_eq_ok_iff [] List.nodup_nil

/-- The first block whose place is taken is reported. -/
lemma ofBlocks_eq_error {blocks : List Block} {before after : List Placement}
    (hplacements : blocks.mapM Block.placement = .ok (before ++ placement :: after))
    (hbefore : (before.map Placement.pair).Nodup)
    (hmem : placement.pair ∈ before.map Placement.pair) :
    ofBlocks blocks = .error ⟨placement.line, placement.fault⟩ := by
  have hall := mapM_eq_ok_iff.mp hplacements
  obtain ⟨block, rest, hblock, -, hrest⟩ :=
    List.forall₂_cons_right_iff.mp (List.forall₂_drop_append _ _ _ hall)
  have hfirst := mapM_eq_ok_iff.mpr (List.forall₂_take_append _ _ _ hall)
  have hrun : (blocks.take before.length).foldlM placeAt [] = .ok (grouped before) :=
    ofBlocks_eq_ok_iff.mpr ⟨before, hfirst, hbefore, rfl⟩
  rw [ofBlocks, ← List.take_append_drop before.length blocks, hrest, List.foldlM_append, hrun]
  change (block :: rest).foldlM placeAt (grouped before) = _
  rw [List.foldlM_cons, placeAt_grouped_of_mem hblock hmem]
  rfl

end Document

/-! ## All places of a text -/

/-- Placed blocks keep the lines of their headers. -/
lemma map_line_eq {blocks : List Block} {placements : List Placement}
    (hplacements : blocks.mapM Block.placement = .ok placements) :
    blocks.map Block.line = placements.map Placement.line := by
  rw [← List.forall₂_eq_eq_eq, List.forall₂_map_left_iff, List.forall₂_map_right_iff]
  refine (mapM_eq_ok_iff.mp hplacements).imp fun block placement hplacement => ?_
  exact (Block.placement_eq_ok_iff.mp hplacement).2.1.symm

/-- If blocks after others with distinct places do not all find their places free, there is a first
one that does not. -/
lemma exists_first_taken_after {done placements : List Placement}
    (hdone : (done.map Placement.pair).Nodup)
    (h : ¬((done ++ placements).map Placement.pair).Nodup) :
    ∃ before placement after, placements = before ++ placement :: after ∧
      ((done ++ before).map Placement.pair).Nodup ∧
      placement.pair ∈ (done ++ before).map Placement.pair := by
  induction placements using List.reverseRecOn with
  | nil => exact absurd (by simpa using hdone) h
  | append_singleton placements placement ih =>
    rw [← List.append_assoc] at h
    by_cases hnodup : ((done ++ placements).map Placement.pair).Nodup
    · refine ⟨placements, placement, [], rfl, hnodup, ?_⟩
      by_contra hnew
      exact h (Document.nodup_pair_concat_iff.mpr ⟨hnodup, hnew⟩)
    · obtain ⟨before, taken, after, rfl, hbefore, hmem⟩ := ih hnodup
      exact ⟨before, taken, after ++ [placement], by simp, hbefore, hmem⟩

/-- If not all places are distinct, there is a first one that is taken. -/
lemma exists_first_taken {placements : List Placement}
    (h : ¬(placements.map Placement.pair).Nodup) :
    ∃ before placement after, placements = before ++ placement :: after ∧
      (before.map Placement.pair).Nodup ∧ placement.pair ∈ before.map Placement.pair := by
  have hnone : (([] : List Placement).map Placement.pair).Nodup := List.nodup_nil
  exact exists_first_taken_after hnone h

variable {text source : String} {blocks : List Block} {placements : List Placement}

/-- A text denotes the mapping of the document that it denotes. -/
lemma parse_eq_ok_iff {mapping : Mapping} : parse text source = .ok mapping ↔
    ∃ document, read text = .ok document ∧ mapping = document.toMapping := by
  rw [parse]
  cases read text <;> simp [eq_comm]

/-- Blocks with distinct places make up the mapping. -/
lemma parse_of_nodup (hscan : scan (linesOf text) = .ok blocks)
    (hplacements : blocks.mapM Block.placement = .ok placements)
    (hnodup : (placements.map Placement.pair).Nodup) :
    parse text source = .ok (Document.grouped placements).toMapping := by
  have hread : read text = .ok (Document.grouped placements) := by
    rw [read, hscan]
    exact Document.ofBlocks_eq_ok_iff.mpr ⟨placements, hplacements, hnodup, rfl⟩
  rw [parse, hread]

/-- The first block whose place is taken is reported at the line of its header. -/
lemma parse_of_taken (hscan : scan (linesOf text) = .ok blocks)
    (hplacements : blocks.mapM Block.placement = .ok placements) {before after : List Placement}
    {placement : Placement} (hsplit : placements = before ++ placement :: after)
    (hbefore : (before.map Placement.pair).Nodup)
    (hmem : placement.pair ∈ before.map Placement.pair) :
    parse text source = .error (placement.taken.withLocation ⟨source, some placement.line⟩) := by
  subst hsplit
  have hread : read text = .error ⟨placement.line, placement.fault⟩ := by
    rw [read, hscan]
    exact Document.ofBlocks_eq_error hplacements hbefore hmem
  rw [parse, hread]
  simp only [Failure.toError, Placement.toError_fault]

/-- **The blocks of a text are neither lost nor merged nor overwritten.** For a text with a layout
whose headers all name a place, the mapping exists exactly if no two headers name the same place, and
it groups the blocks by their sections. Otherwise the error is found at the first header whose place
is taken, and says whether that header names its subsection.

**Proof sketch.** Blocks with distinct places make up the mapping (`parse_of_nodup`). If two places
are the same there is a first one that is taken (`exists_first_taken`), and its block is reported
(`parse_of_taken`). -/
theorem parse_placements (hscan : scan (linesOf text) = .ok blocks)
    (hplacements : blocks.mapM Block.placement = .ok placements) :
    Layout (linesOf text) blocks ∧ (placements.map Placement.line).Pairwise (· < ·) ∧
      ((∃ mapping, parse text source = .ok mapping) ↔ (placements.map Placement.pair).Nodup) ∧
      (∀ mapping, parse text source = .ok mapping →
        mapping = (Document.grouped placements).toMapping) ∧
      ∀ e, parse text source = .error e ↔ ∃ before placement after,
        placements = before ++ placement :: after ∧ (before.map Placement.pair).Nodup ∧
          placement.pair ∈ before.map Placement.pair ∧
          e = placement.taken.withLocation ⟨source, some placement.line⟩ := by
  have hlayout := scan_eq_ok_iff.mp hscan
  have hlines : (placements.map Placement.line).Pairwise (· < ·) := by
    rw [← map_line_eq hplacements]
    exact (pairwise_number_linesOf text).sublist hlayout.sublist_number
  refine ⟨hlayout, hlines, ?_⟩
  by_cases hnodup : (placements.map Placement.pair).Nodup
  · have hparse : parse text source = .ok (Document.grouped placements).toMapping :=
      parse_of_nodup hscan hplacements hnodup
    refine ⟨⟨fun _ => hnodup, fun _ => ⟨_, hparse⟩⟩, ?_, fun e => ⟨?_, ?_⟩⟩
    · intro mapping h
      exact Except.ok.inj (h.symm.trans hparse)
    · intro h
      rw [hparse] at h
      cases h
    · rintro ⟨before, placement, after, hsplit, hbefore, hmem, rfl⟩
      exact parse_of_taken hscan hplacements hsplit hbefore hmem
  · obtain ⟨before, placement, after, hsplit, hbefore, hmem⟩ := exists_first_taken hnodup
    have hparse : parse text source = .error (placement.taken.withLocation _) :=
      parse_of_taken hscan hplacements hsplit hbefore hmem
    refine ⟨⟨?_, fun h => absurd h hnodup⟩, ?_, fun e => ⟨?_, ?_⟩⟩
    · rintro ⟨mapping, h⟩
      rw [hparse] at h
      cases h
    · intro mapping h
      rw [hparse] at h
      cases h
    · intro h
      rw [hparse] at h
      cases h
      exact ⟨before, placement, after, hsplit, hbefore, hmem, rfl⟩
    · rintro ⟨before, placement, after, hsplit, hbefore, hmem, rfl⟩
      exact parse_of_taken hscan hplacements hsplit hbefore hmem

/-- A header without a subsection finds its place taken by one that names the default subsection. -/
theorem parse_default_taken :
    parse "[s@main]\na = 1\n[t]\n[ @s]\nb = 2\n" "app.ini" =
      .error ((Error.duplicateSection "s").withLocation ⟨"app.ini", some 4⟩) := by
  have hscan : scan (linesOf "[s@main]\na = 1\n[t]\n[ @s]\nb = 2\n") =
      .ok [⟨"s@main", 1, [("a", "1")]⟩, ⟨"t", 3, []⟩, ⟨"@s", 4, [("b", "2")]⟩] := by
    decide
  have hplacements : [(⟨"s@main", 1, [("a", "1")]⟩ : Block), ⟨"t", 3, []⟩,
      ⟨"@s", 4, [("b", "2")]⟩].mapM Block.placement =
      .ok [⟨"s", some "main", 1, [("a", "1")]⟩, ⟨"t", none, 3, []⟩,
        ⟨"s", none, 4, [("b", "2")]⟩] := by
    decide
  exact ((parse_placements hscan hplacements).2.2.2.2 _).mpr
    ⟨[⟨"s", some "main", 1, [("a", "1")]⟩, ⟨"t", none, 3, []⟩], ⟨"s", none, 4, [("b", "2")]⟩, [],
      rfl, by decide, by decide, rfl⟩

end Ini

end ConfigTree
