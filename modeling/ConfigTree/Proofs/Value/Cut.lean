import Mathlib.Data.Bool.AllAny
import Mathlib.Data.List.Basic
import ConfigTree.Proofs.Text.Trim
import ConfigTree.Value.Literal

set_option relaxedAutoImplicit false
set_option autoImplicit false

/-!
# Cutting the inside of brackets

A text in which all brackets and quotes are closed, and which has no comma outside of them, is kept
whole when the inside of brackets is cut. Such texts between commas are the parts of the inside, and
a literal in brackets denotes the sequence of what these parts denote.

## Main definitions

* `ConfigTree.Value.Scan.after` — where a scan stands after a text that it keeps.
* `ConfigTree.Value.Kept` — a text that a scan inside of some brackets keeps.
* `ConfigTree.Value.enclose` — a text with brackets or parentheses around it.

## Main results

* `ConfigTree.Value.cut?_intercalate` — the inside of brackets is cut at the commas between parts.
* `ConfigTree.Value.intercalate_of_cut?` — the parts with commas between them are what was cut.
* `ConfigTree.Value.parseLiteral?_parts` — what texts between brackets with commas between them denote.
* `ConfigTree.Value.parseLiteral?_brackets` — a literal in brackets is a sequence of literals.
* `ConfigTree.Value.parseLiteral?_sequence` — the same for items with a blank after each comma.

## Implementation notes

A comma is kept inside of brackets and not outside of them, so that a text may be kept at some depths
only; `Kept` therefore speaks of all depths from a least one on.
-/

namespace ConfigTree.Value

open Text (trim isBlank)

/-! ## Texts that a scan keeps -/

/-- The text with brackets around it, or with parentheses. -/
def enclose (round : Bool) (inner : List Char) : List Char :=
  (if round then '(' else '[') :: inner ++ [if round then ')' else ']']

/-- Where a scan stands after a text, if it keeps all characters of it. -/
def Scan.after (scan : Scan) : List Char → Option Scan
  | [] => some scan
  | c :: rest =>
    match scan.step c with
    | .keep next => next.after rest
    | _ => none

/-- A character that is kept takes the scan on. -/
lemma Scan.after_cons {scan next : Scan} {c : Char} (h : scan.step c = .keep next)
    (rest : List Char) : scan.after (c :: rest) = next.after rest := by
  rw [after, h]

/-- A scan of two texts is a scan of the second one from where the first one left it. -/
lemma Scan.after_append (scan : Scan) (text more : List Char) :
    scan.after (text ++ more) = (scan.after text).bind (·.after more) := by
  induction text generalizing scan with
  | nil => rfl
  | cons c rest ih =>
    rw [List.cons_append, after, after]
    split
    · exact ih _
    · rfl

/-- Inside of at least `least` brackets, a scan keeps the text and stands as before after it. -/
def Kept (least : ℕ) (text : List Char) : Prop :=
  ∀ depth, least ≤ depth → (Scan.outside depth).after text = some (.outside depth)

namespace Kept

variable {least : ℕ} {text more : List Char}

/-- The empty text is kept. -/
lemma nil : Kept least [] := fun _ _ => rfl

/-- Two kept texts are kept together. -/
lemma append (h : Kept least text) (hmore : Kept least more) : Kept least (text ++ more) := by
  intro depth hdepth
  rw [Scan.after_append, h depth hdepth, Option.bind_some, hmore depth hdepth]

/-- Inside of more brackets, a text is kept as well. -/
lemma mono {least' : ℕ} (h : Kept least text) (hle : least ≤ least') : Kept least' text :=
  fun depth hdepth => h depth (Nat.le_trans hle hdepth)

/-- A character that is no quote, no bracket and no comma is kept. -/
lemma singleton {c : Char} (hc : c ∉ "'\"[(\x7b])\x7d,".toList) : Kept least [c] := by
  intro depth _
  have hstep : (Scan.outside depth).step c = .keep (.outside depth) := by
    simp only [String.reduceToList, List.mem_cons, List.not_mem_nil, or_false, not_or] at hc
    simp [Scan.step, hc]
  rw [Scan.after_cons hstep, Scan.after]

/-- A text without quotes, brackets and commas is kept. -/
lemma of_forall (h : ∀ c ∈ text, c ∉ "'\"[(\x7b])\x7d,".toList) : Kept least text := by
  induction text with
  | nil => exact nil
  | cons c rest ih =>
    obtain ⟨hc, hrest⟩ := List.forall_mem_cons.mp h
    exact (singleton hc).append (ih hrest)

/-- Blanks are no brackets, quotes or commas. -/
lemma of_blanks (h : ∀ c ∈ text, isBlank c = true) : Kept least text := by
  refine of_forall fun c hc hmem => ?_
  have hnone : ∀ c ∈ "'\"[(\x7b])\x7d,".toList, isBlank c = false :=
    List.all_iff_forall_prop.mp (by decide)
  exact absurd (h c hc) (by simp [hnone c hmem])

/-- Inside of brackets a comma is kept. -/
lemma comma : Kept (least + 1) [','] := by
  intro depth hdepth
  have hstep : (Scan.outside depth).step ',' = .keep (.outside depth) := by
    simp [Scan.step, show depth ≠ 0 by omega]
  rw [Scan.after_cons hstep, Scan.after]

/-- **A text in brackets** is kept if it is kept itself, one bracket further inside. -/
lemma enclose (h : Kept (least + 1) text) (round : Bool) : Kept least (enclose round text) := by
  intro depth hdepth
  have hopen : (Scan.outside depth).step (if round then '(' else '[') =
      .keep (.outside (depth + 1)) := by
    cases round <;> simp [Scan.step]
  have hclose : (Scan.outside (depth + 1)).step (if round then ')' else ']') =
      .keep (.outside depth) := by
    cases round <;> simp [Scan.step]
  rw [Value.enclose, List.cons_append, Scan.after_cons hopen, Scan.after_append,
    h (depth + 1) (by omega), Option.bind_some, Scan.after_cons hclose, Scan.after]

/-- Texts with kept separators between them are kept. -/
lemma intercalate {separator : List Char} {texts : List (List Char)}
    (hseparator : Kept least separator) (htexts : ∀ text ∈ texts, Kept least text) :
    Kept least (separator.intercalate texts) := by
  induction texts with
  | nil => exact nil
  | cons text rest ih =>
    obtain ⟨htext, hrest⟩ := List.forall_mem_cons.mp htexts
    cases rest with
    | nil => simpa using htext
    | cons next others =>
      rw [List.intercalate_cons_cons]
      exact (htext.append hseparator).append (ih hrest)

end Kept

/-! ## The parts between commas -/

/-- The parts with a text before the first one. -/
def prepend (text : List Char) (parts : List (List Char)) : List (List Char) :=
  text.foldr consFirst parts

/-- A text before parts goes into the first of them. -/
lemma prepend_cons (text part : List Char) (parts : List (List Char)) :
    prepend text (part :: parts) = (text ++ part) :: parts := by
  induction text with
  | nil => rfl
  | cons c rest ih =>
    have hfirst : prepend (c :: rest) (part :: parts) =
        consFirst c (prepend rest (part :: parts)) := rfl
    rw [hfirst, ih, consFirst, List.cons_append]

/-- A text that is kept goes into the first of the parts that follow. -/
lemma cutFrom?_append {scan next : Scan} {text : List Char} (h : scan.after text = some next)
    (rest : List Char) :
    cutFrom? scan (text ++ rest) = (cutFrom? next rest).map (prepend text) := by
  induction text generalizing scan with
  | nil =>
    obtain rfl : scan = next := Option.some.inj h
    exact Option.map_id'.symm
  | cons c more ih =>
    rw [Scan.after] at h
    rw [List.cons_append, cutFrom?]
    split at h
    · rename_i hstep
      rw [hstep]
      simp only [ih h, Option.map_map]
      rfl
    · simp at h

/-- **The inside of brackets** is cut at the commas between texts that are kept.

**Proof sketch.** Induction on the texts: the scan keeps the first one, and then cuts at the comma. -/
lemma cut?_intercalate {parts : List (List Char)} (hne : parts ≠ [])
    (hparts : ∀ part ∈ parts, Kept 0 part) : cut? ([','].intercalate parts) = some parts := by
  induction parts with
  | nil => exact absurd rfl hne
  | cons part rest ih =>
    obtain ⟨hpart, hrest⟩ := List.forall_mem_cons.mp hparts
    have hafter := hpart 0 (Nat.le_refl 0)
    cases rest with
    | nil =>
      have hcut := cutFrom?_append hafter []
      rw [List.append_nil] at hcut
      rw [List.intercalate_singleton, cut?, hcut, cutFrom?, Option.map_some, prepend_cons,
        List.append_nil]
    | cons next others =>
      have hcomma : cutFrom? (.outside 0) (',' :: [','].intercalate (next :: others)) =
          (cut? ([','].intercalate (next :: others))).map ([] :: ·) := by
        rw [cutFrom?]
        rfl
      rw [List.intercalate_cons_cons, List.append_assoc, List.singleton_append, cut?,
        cutFrom?_append hafter, hcomma, ih (by simp) hrest, Option.map_some, Option.map_some,
        prepend_cons, List.append_nil]

/-- A scan cuts only at commas. -/
lemma Scan.eq_comma_of_cut {scan : Scan} {c : Char} (h : scan.step c = .cut) : c = ',' := by
  cases scan with
  | escaped depth quote => simp [step] at h
  | inside depth quote =>
    simp only [step] at h
    split at h
    · simp at h
    split at h <;> simp at h
  | outside depth =>
    simp only [step] at h
    split at h
    · simp at h
    split at h
    · simp at h
    split at h
    · split at h <;> simp at h
    split at h
    · rename_i hcomma
      exact hcomma.1
    · simp at h

/-- **The parts** of a text, with the commas between them, are the text. -/
lemma intercalate_of_cutFrom? {scan : Scan} {text : List Char} {parts : List (List Char)}
    (h : cutFrom? scan text = some parts) : parts ≠ [] ∧ [','].intercalate parts = text := by
  induction text generalizing scan parts with
  | nil =>
    unfold cutFrom? at h
    split at h
    · obtain rfl := Option.some.inj h
      simp
    · simp at h
  | cons c rest ih =>
    unfold cutFrom? at h
    split at h
    · obtain ⟨found, hfound, rfl⟩ := Option.map_eq_some_iff.mp h
      obtain ⟨hne, rfl⟩ := ih hfound
      obtain ⟨first, more, rfl⟩ := List.exists_cons_of_ne_nil hne
      cases more <;> simp [consFirst, List.intercalate_cons_cons]
    · rename_i hcut
      obtain ⟨found, hfound, rfl⟩ := Option.map_eq_some_iff.mp h
      obtain ⟨hne, rfl⟩ := ih hfound
      obtain ⟨first, more, rfl⟩ := List.exists_cons_of_ne_nil hne
      rw [Scan.eq_comma_of_cut hcut]
      simp [List.intercalate_cons_cons]
    · simp at h

/-- The parts of a text in brackets, with the commas between them, are the text. -/
lemma intercalate_of_cut? {inner : List Char} {parts : List (List Char)}
    (h : cut? inner = some parts) : parts ≠ [] ∧ [','].intercalate parts = inner :=
  intercalate_of_cutFrom? h

/-! ## Brackets around a text -/

/-- A text with brackets around it is not empty. -/
lemma enclose_ne_nil (round : Bool) (inner : List Char) : enclose round inner ≠ [] :=
  List.cons_ne_nil _ _

/-- Brackets shield a text from being trimmed. -/
lemma trim_enclose (round : Bool) (inner : List Char) :
    trim (enclose round inner) = enclose round inner := by
  cases round <;> exact Text.trim_between (by decide) (by decide) inner

/-- **Brackets** are found exactly where they stand around a text. -/
lemma bracketed?_eq_some_iff {text inner : List Char} {round : Bool} :
    bracketed? text = some (round, inner) ↔ text = enclose round inner := by
  constructor
  · intro h
    unfold bracketed? at h
    split at h
    · split at h
      · rename_i hlast
        obtain ⟨rfl, rfl⟩ := Prod.mk.inj (Option.some.inj h)
        rw [enclose, List.cons_append]
        exact congrArg _ (List.dropLast_append_getLast? _ hlast).symm
      · simp at h
    · split at h
      · rename_i hlast
        obtain ⟨rfl, rfl⟩ := Prod.mk.inj (Option.some.inj h)
        rw [enclose, List.cons_append]
        exact congrArg _ (List.dropLast_append_getLast? _ hlast).symm
      · simp at h
    · simp at h
  · rintro rfl
    cases round <;> simp [enclose, bracketed?]

/-! ## Reading literals -/

/-- A text without brackets around it is read as a single literal. -/
lemma parseLiteral?_of_scalar {text : List Char} (h : bracketed? (trim text) = none) :
    parseLiteral? text = scalarLiteral? (trim text) := by
  rw [parseLiteral?]
  split
  · rfl
  · simp_all

/-- A trimmed text that starts as no other literal does is one only as a number. -/
lemma parseLiteral?_of_head {c : Char} {rest : List Char} (htrim : trim (c :: rest) = c :: rest)
    (hc : c ∉ "[('\"NTF".toList) : parseLiteral? (c :: rest) = numberLiteral? (c :: rest) := by
  simp only [String.reduceToList, List.mem_cons, List.not_mem_nil, or_false, not_or] at hc
  obtain ⟨hsquare, hround, hsingle, hdouble, hN, hT, hF⟩ := hc
  have hbrackets : bracketed? (trim (c :: rest)) = none := by
    rw [htrim]
    unfold bracketed?
    split <;> simp_all
  have hwords : wordLiteral? (c :: rest) = numberLiteral? (c :: rest) := by
    simp [wordLiteral?, hN, hT, hF]
  rw [parseLiteral?_of_scalar hbrackets, htrim, ← hwords]
  unfold scalarLiteral?
  split
  · simp_all
  · simp_all
  · rfl

/-- A trimmed text that starts as a number does is a literal only as a number. -/
lemma parseLiteral?_of_number_head {c : Char} {rest : List Char}
    (htrim : trim (c :: rest) = c :: rest) (hc : c.isDigit = true ∨ c ∈ ['.', '+', '-']) :
    parseLiteral? (c :: rest) = numberLiteral? (c :: rest) := by
  apply parseLiteral?_of_head htrim
  intro hmem
  have hnone : ∀ c ∈ "[('\"NTF".toList, ¬ (c.isDigit = true ∨ c ∈ ['.', '+', '-']) :=
    List.all_iff_forall_prop.mp (by decide)
  exact hnone c hmem hc

/-- What a text in brackets denotes is made up of what its parts denote. -/
lemma parseLiteral?_of_bracketed {text inner : List Char} {round : Bool}
    (h : bracketed? (trim text) = some (round, inner)) :
    parseLiteral? text = (cut? inner).bind fun parts =>
      ((dropBlankLast parts).mapM parseLiteral?).map (assemble round parts) := by
  rw [parseLiteral?]
  split
  · simp_all
  · rename_i found
    obtain ⟨rfl, rfl⟩ : _ = round ∧ _ = inner := by simpa using found.symm.trans h
    split
    · rename_i hcut
      rw [hcut, Option.bind_none]
    · rename_i hcut
      rw [hcut, Option.bind_some, List.mapM_subtype (g := parseLiteral?) fun _ _ => rfl,
        List.unattach_attach]

/-- Blanks around a text play no part in what it denotes. -/
lemma parseLiteral?_congr {text text' : List Char} (h : trim text = trim text') :
    parseLiteral? text = parseLiteral? text' := by
  cases hbrackets : bracketed? (trim text) with
  | none =>
    rw [parseLiteral?_of_scalar hbrackets, parseLiteral?_of_scalar (h ▸ hbrackets), h]
  | some found =>
    obtain ⟨round, inner⟩ := found
    rw [parseLiteral?_of_bracketed hbrackets, parseLiteral?_of_bracketed (h ▸ hbrackets)]

/-- With blanks around it, a text that starts as a number does is a literal only as a number. -/
lemma parseLiteral?_of_number_trim {text rest : List Char} {c : Char} (htext : trim text = c :: rest)
    (hc : c.isDigit = true ∨ c ∈ ['.', '+', '-']) :
    parseLiteral? text = numberLiteral? (trim text) := by
  have htrim : trim (c :: rest) = c :: rest := by rw [← htext, Text.trim_trim]
  rw [parseLiteral?_congr (Text.trim_trim text).symm, htext]
  exact parseLiteral?_of_number_head htrim hc

/-- If no part is blank, none is dropped. -/
lemma dropBlankLast_of_forall {parts : List (List Char)} (h : ∀ part ∈ parts, trim part ≠ []) :
    dropBlankLast parts = parts := by
  unfold dropBlankLast
  split
  · rename_i last hlast
    rw [if_neg]
    rw [List.isEmpty_iff]
    exact h last (List.mem_of_getLast? hlast)
  · rfl

/-- A blank last part is dropped, which the comma at the end of a sequence leaves. -/
lemma dropBlankLast_concat {parts : List (List Char)} {last : List Char} (h : trim last = []) :
    dropBlankLast (parts ++ [last]) = parts := by
  simp [dropBlankLast, h]

/-- **Texts with commas between them** and brackets around them are the parts of a literal. -/
lemma parseLiteral?_parts (round : Bool) {parts : List (List Char)} (hne : parts ≠ [])
    (hkept : ∀ part ∈ parts, Kept 0 part) :
    parseLiteral? (enclose round ([','].intercalate parts)) =
      ((dropBlankLast parts).mapM parseLiteral?).map (assemble round parts) := by
  have hbrackets : bracketed? (trim (enclose round ([','].intercalate parts))) =
      some (round, [','].intercalate parts) := by
    rw [trim_enclose, bracketed?_eq_some_iff]
  rw [parseLiteral?_of_bracketed hbrackets, cut?_intercalate hne hkept, Option.bind_some]

/-- **A literal in brackets** denotes the sequence of what the parts between its commas denote. -/
lemma parseLiteral?_brackets {parts : List (List Char)}
    (hparts : ∀ part ∈ parts, Kept 0 part ∧ trim part ≠ []) :
    parseLiteral? ('[' :: [','].intercalate parts ++ [']']) =
      (parts.mapM parseLiteral?).map .sequence := by
  by_cases hne : parts = []
  · subst hne
    have hempty := parseLiteral?_parts false (List.cons_ne_nil ([] : List Char) [])
      (List.forall_mem_singleton.mpr .nil)
    exact hempty
  · have hread := parseLiteral?_parts false hne fun part hpart => (hparts part hpart).1
    rw [dropBlankLast_of_forall fun part hpart => (hparts part hpart).2] at hread
    exact hread

/-- The texts with a blank before each of them but the first. -/
def spaced : List (List Char) → List (List Char)
  | [] => []
  | text :: rest => text :: rest.map (' ' :: ·)

/-- Commas with blanks after them are commas between spaced texts. -/
lemma intercalate_spaced (texts : List (List Char)) :
    [',', ' '].intercalate texts = [','].intercalate (spaced texts) := by
  cases texts with
  | nil => rfl
  | cons text rest =>
    induction rest generalizing text with
    | nil => rfl
    | cons next others ih =>
      cases others with
      | nil => simp [spaced, List.intercalate_cons_cons]
      | cons third more => simpa [spaced, List.intercalate_cons_cons] using ih next

/-- A spaced text is one of the texts, or has a blank before it. -/
lemma mem_spaced {texts : List (List Char)} {part : List Char} (h : part ∈ spaced texts) :
    ∃ text ∈ texts, part = text ∨ part = ' ' :: text := by
  cases texts with
  | nil => simp [spaced] at h
  | cons text rest =>
    rcases List.mem_cons.mp h with rfl | h
    · exact ⟨part, List.mem_cons_self, .inl rfl⟩
    · obtain ⟨text', hmem, rfl⟩ := List.mem_map.mp h
      exact ⟨text', List.mem_cons_of_mem _ hmem, .inr rfl⟩

/-- A blank at the start of a literal does not matter. -/
lemma parseLiteral?_blank_cons (text : List Char) :
    parseLiteral? (' ' :: text) = parseLiteral? text :=
  parseLiteral?_congr (Text.trim_blank_cons (by decide))

/-- Spaced texts denote what the texts denote. -/
lemma mapM_spaced (texts : List (List Char)) :
    (spaced texts).mapM parseLiteral? = texts.mapM parseLiteral? := by
  cases texts with
  | nil => rfl
  | cons text rest =>
    simp only [spaced, List.mapM_cons, List.mapM_map, Function.comp_def, parseLiteral?_blank_cons]

/-- **A written sequence** denotes the sequence of what its items denote.

**Proof sketch.** The blank after each comma goes to the part that follows it, where it is trimmed. -/
lemma parseLiteral?_sequence {texts : List (List Char)}
    (htexts : ∀ text ∈ texts, Kept 0 text ∧ trim text ≠ []) :
    parseLiteral? ('[' :: [',', ' '].intercalate texts ++ [']']) =
      (texts.mapM parseLiteral?).map .sequence := by
  rw [intercalate_spaced, parseLiteral?_brackets, mapM_spaced]
  intro part hpart
  obtain ⟨text, htext, rfl | rfl⟩ := mem_spaced hpart
  · exact htexts part htext
  · obtain ⟨hkept, hne⟩ := htexts text htext
    rw [Text.trim_blank_cons (by decide)]
    exact ⟨(Kept.singleton (c := ' ') (by decide)).append hkept, hne⟩

end ConfigTree.Value
