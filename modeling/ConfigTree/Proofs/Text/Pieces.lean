import Mathlib.Data.List.Basic
import ConfigTree.Text.Basic

set_option relaxedAutoImplicit false
set_option autoImplicit false

/-!
# Segments of dotted paths

Joining segments without dots by dots and cutting the path at its dots gives the segments back, and
so does cutting a path first and joining its segments.

## Main results

* `ConfigTree.Text.pieces_append_cons` — the first cut is at the first separator.
* `ConfigTree.Text.pieces_eq_cons_iff` — the pieces of a text that is made of them.
* `ConfigTree.Text.segments_dotted` — the segments of a dotted path are those that it was made of.
* `ConfigTree.Text.dotted_segments` — a path is made of its segments.
-/

namespace ConfigTree.Text

variable {separator : Char} {piece : List Char}

/-- A text without separators is one piece. -/
lemma pieces_eq_singleton (h : separator ∉ piece) : pieces separator piece = [piece] := by
  induction piece with
  | nil => rfl
  | cons c rest ih =>
    obtain ⟨hc, hrest⟩ : separator ≠ c ∧ separator ∉ rest := by simpa using h
    rw [pieces, if_neg hc.symm, ih hrest]

/-- The first cut is at the first separator. -/
lemma pieces_append_cons (h : separator ∉ piece) (rest : List Char) :
    pieces separator (piece ++ separator :: rest) = piece :: pieces separator rest := by
  induction piece with
  | nil => rw [List.nil_append, pieces, if_pos rfl]
  | cons c more ih =>
    obtain ⟨hc, hmore⟩ : separator ≠ c ∧ separator ∉ more := by simpa using h
    rw [List.cons_append, pieces, if_neg hc.symm, ih hmore]

/-- The characters of joined texts are those of the texts, with the separator between them. -/
lemma toList_joined (separator : String) (texts : List String) :
    (joined separator texts).toList = separator.toList.intercalate (texts.map String.toList) := by
  induction texts with
  | nil => rfl
  | cons text rest ih =>
    cases rest with
    | nil => rw [joined, List.map_singleton, List.intercalate_singleton]
    | cons next more =>
      rw [joined, String.toList_append, String.toList_append, ih]
      · simp only [List.map_cons, List.intercalate_cons_cons]
      · exact List.cons_ne_nil _ _

/-- **The segments of a dotted path** are those that it was made of, if none of them has a dot.

**Proof sketch.** Induction on the segments; the path starts with the first one and a dot, unless it
is the only one. -/
lemma segments_dotted {parts : List String} (hparts : ∀ part ∈ parts, '.' ∉ part.toList)
    (hne : parts ≠ []) : segments (dotted parts) = parts := by
  induction parts with
  | nil => exact absurd rfl hne
  | cons part more ih =>
    obtain ⟨hpart, hmore⟩ := List.forall_mem_cons.mp hparts
    cases more with
    | nil =>
      rw [dotted, joined, segments, pieces_eq_singleton hpart, List.map_singleton,
        String.ofList_toList]
    | cons next rest =>
      have htext : (dotted (part :: next :: rest)).toList =
          part.toList ++ '.' :: (dotted (next :: rest)).toList := by
        simp [dotted, joined]
      have htail : segments (dotted (next :: rest)) = next :: rest := ih hmore (by simp)
      rw [segments, htext, pieces_append_cons hpart, List.map_cons, String.ofList_toList]
      exact congrArg (part :: ·) htail

/-- A text has at least one piece. -/
lemma pieces_ne_nil (separator : Char) (text : List Char) : pieces separator text ≠ [] := by
  cases text with
  | nil => simp [pieces]
  | cons c rest =>
    rw [pieces]
    split
    · simp
    · split <;> simp

/-- A piece has no separators. -/
lemma not_mem_of_mem_pieces {text : List Char} :
    ∀ part ∈ pieces separator text, separator ∉ part := by
  induction text with
  | nil => simp [pieces]
  | cons c rest ih =>
    rw [pieces]
    split
    · rw [List.forall_mem_cons]
      exact ⟨by simp, ih⟩
    · rename_i hc
      split
      · simpa using Ne.symm hc
      · rename_i hpieces
        rw [hpieces, List.forall_mem_cons] at ih
        rw [List.forall_mem_cons]
        exact ⟨by simpa using ⟨Ne.symm hc, ih.1⟩, ih.2⟩

/-- **The pieces of a text** have no separators, and the text is made of them.

**Proof sketch.** From left to right by induction on the text; from right to left by induction on the
pieces, since the first cut is at the first separator. -/
lemma pieces_eq_cons_iff {text first : List Char} {more : List (List Char)} :
    pieces separator text = first :: more ↔
      (∀ part ∈ first :: more, separator ∉ part) ∧
        text = first ++ more.flatMap fun part => separator :: part := by
  constructor
  · intro h
    refine ⟨fun part hpart => not_mem_of_mem_pieces part (h ▸ hpart), ?_⟩
    induction text generalizing first more with
    | nil =>
      obtain ⟨rfl, rfl⟩ := List.cons.inj h
      rfl
    | cons c rest ih =>
      obtain ⟨piece, others, hpieces⟩ := List.exists_cons_of_ne_nil (pieces_ne_nil separator rest)
      rw [pieces, hpieces] at h
      split at h
      · rename_i hc
        obtain ⟨rfl, rfl⟩ := List.cons.inj h
        rw [hc, ih hpieces]
        rfl
      · obtain ⟨rfl, rfl⟩ := List.cons.inj h
        rw [ih hpieces]
        rfl
  · rintro ⟨hparts, rfl⟩
    induction more generalizing first with
    | nil => simpa using pieces_eq_singleton (hparts first List.mem_cons_self)
    | cons next more ih =>
      obtain ⟨hfirst, hmore⟩ := List.forall_mem_cons.mp hparts
      rw [List.flatMap_cons, List.cons_append, pieces_append_cons hfirst, ih hmore]

/-- The characters of a piece are from the text. -/
lemma mem_of_mem_pieces {text part : List Char} (hpart : part ∈ pieces separator text) {c : Char}
    (hc : c ∈ part) : c ∈ text := by
  obtain ⟨first, more, hpieces⟩ := List.exists_cons_of_ne_nil (pieces_ne_nil separator text)
  rw [hpieces, List.mem_cons] at hpart
  rw [(pieces_eq_cons_iff.mp hpieces).2, List.mem_append, List.mem_flatMap]
  rcases hpart with rfl | hpart
  · exact .inl hc
  · exact .inr ⟨part, hpart, List.mem_cons_of_mem _ hc⟩

/-- A path has at least one segment. -/
lemma segments_ne_nil (path : String) : segments path ≠ [] := by
  simpa [segments] using pieces_ne_nil '.' path.toList

/-- A segment of a path has no period. -/
lemma period_not_mem_of_mem_segments {path part : String} (h : part ∈ segments path) :
    '.' ∉ part.toList := by
  obtain ⟨piece, hpiece, rfl⟩ := List.mem_map.mp h
  rw [String.toList_ofList]
  exact not_mem_of_mem_pieces piece hpiece

/-- The first segment stands before the dotted path of the others. -/
lemma dotted_cons {part : String} {more : List String} (hne : more ≠ []) :
    dotted (part :: more) = part ++ "." ++ dotted more := by
  obtain ⟨next, rest, rfl⟩ := List.exists_cons_of_ne_nil hne
  rfl

/-- **Joining the segments of a path** gives the path back. -/
lemma dotted_segments (path : String) : dotted (segments path) = path := by
  obtain ⟨text, rfl⟩ : ∃ text, path = String.ofList text := ⟨path.toList, by simp⟩
  rw [segments, String.toList_ofList]
  induction text with
  | nil => rfl
  | cons c rest ih =>
    rw [pieces]
    split
    · rename_i hc
      rw [List.map_cons, dotted_cons (by simpa using pieces_ne_nil '.' rest), ih, hc]
      simp
    · split
      · rename_i hpieces
        exact absurd hpieces (pieces_ne_nil '.' rest)
      · rename_i piece more hpieces
        rw [hpieces] at ih
        cases more with
        | nil =>
          simp only [List.map_cons, List.map_nil, dotted, joined] at ih ⊢
          simpa [← String.toList_inj] using ih
        | cons next others =>
          rw [List.map_cons, dotted_cons (by simp)] at ih ⊢
          simpa [← String.toList_inj] using ih

end ConfigTree.Text
