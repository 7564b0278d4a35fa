import ConfigTree.Text.WordChar

set_option relaxedAutoImplicit false
set_option autoImplicit false

/-!
# References in text

In the text of an option, two dollar signs stand for one, and a name between `$` and braces is a
reference. A name consists of word characters and dots. A dollar sign that starts neither is a
mistake.

## Main definitions

* `ConfigTree.Reference.nameAt?` — the name at the start of a reference, and what follows it.
* `ConfigTree.Reference.Stop` — why a scan stops.
* `ConfigTree.Reference.scan` — the literal text up to the next reference or mistake.

## Main results

* `ConfigTree.Reference.nameAt?_eq_some_iff` — the texts that start with the name of a reference.
* `ConfigTree.Reference.length_lt_of_scan` — a scan that stops at a reference consumes it.
-/

namespace ConfigTree.Reference

/-- Whether `c` may stand in the name of a reference. -/
def isNameChar (c : Char) : Bool :=
  c == '.' || Text.isWordChar c

/-- The name before the closing brace, and the text after that brace. The text given is what follows
the opening brace. -/
def nameAt? (text : List Char) : Option (List Char × List Char) :=
  match text.takeWhile isNameChar, text.dropWhile isNameChar with
  | c :: name, '\x7d' :: tail => some (c :: name, tail)
  | _, _ => none

/-- The name of a reference is the non-empty run of name characters before the closing brace. -/
theorem nameAt?_eq_some_iff {text name tail : List Char} :
    nameAt? text = some (name, tail) ↔
      name ≠ [] ∧ (∀ c ∈ name, isNameChar c) ∧ text = name ++ '\x7d' :: tail := by
  constructor
  · intro h
    unfold nameAt? at h
    split at h
    · rename_i c run tail' htake hdrop
      obtain ⟨rfl, rfl⟩ : c :: run = name ∧ tail' = tail := by simpa using h
      refine ⟨by simp, ?_, ?_⟩
      · intro d hd
        rw [← htake] at hd
        exact List.all_eq_true.mp List.all_takeWhile d hd
      · rw [← htake, ← hdrop, List.takeWhile_append_dropWhile]
    · simp at h
  · rintro ⟨hne, hname, rfl⟩
    have hbrace : isNameChar '\x7d' = false := by decide
    have htake : (name ++ '\x7d' :: tail).takeWhile isNameChar = name := by
      rw [List.takeWhile_append_of_pos hname]
      simp [hbrace]
    have hdrop : (name ++ '\x7d' :: tail).dropWhile isNameChar = '\x7d' :: tail := by
      rw [List.dropWhile_append_of_pos hname]
      simp [hbrace]
    unfold nameAt?
    rw [htake, hdrop]
    cases name with
    | nil => exact absurd rfl hne
    | cons c name => rfl

/-- What follows a name is shorter than the text with the name. -/
theorem length_lt_of_nameAt? {text name tail : List Char}
    (h : nameAt? text = some (name, tail)) : tail.length < text.length := by
  obtain ⟨-, -, rfl⟩ := nameAt?_eq_some_iff.mp h
  simp only [List.length_append, List.length_cons]
  omega

/-- Why a scan stops. -/
inductive Stop where
  /-- The text ends. -/
  | done
  /-- A reference: its name, the text from its dollar sign on, and the text after it. -/
  | reference (name fragment tail : List Char)
  /-- A dollar sign that starts neither an escape nor a reference, with the text after it. -/
  | malformed (fragment : List Char)

/-- The text that stands before the first reference or mistake, with its escapes undone, and what
the scan stops at. -/
def scan : List Char → List Char × Stop
  | [] => ([], .done)
  | '$' :: '$' :: rest =>
    let (text, stop) := scan rest
    ('$' :: text, stop)
  | '$' :: '\x7b' :: rest =>
    match nameAt? rest with
    | some (name, tail) => ([], .reference name ('$' :: '\x7b' :: rest) tail)
    | none => ([], .malformed ('$' :: '\x7b' :: rest))
  | '$' :: rest => ([], .malformed ('$' :: rest))
  | c :: rest =>
    let (text, stop) := scan rest
    (c :: text, stop)

/-- The text after a reference is shorter than the text with the reference. -/
theorem length_lt_of_scan {text before name fragment tail : List Char}
    (h : scan text = (before, .reference name fragment tail)) : tail.length < text.length := by
  induction text using scan.induct generalizing before with
  | case1 => simp [scan] at h
  | case2 rest _ _ hrest ih =>
    simp only [scan, hrest, Prod.mk.injEq] at h
    have := ih (by rw [hrest, h.2])
    simp only [List.length_cons]
    omega
  | case3 rest found left hname =>
    simp only [scan, hname, Prod.mk.injEq, Stop.reference.injEq] at h
    obtain ⟨-, -, -, rfl⟩ := h
    have := length_lt_of_nameAt? hname
    simp only [List.length_cons]
    omega
  | case4 rest hname => simp [scan, hname] at h
  | case5 rest h₁ h₂ => simp [scan] at h
  | case6 c rest h₁ h₂ h₃ _ _ hrest ih =>
    simp only [scan, hrest, Prod.mk.injEq] at h
    have := ih (by rw [hrest, h.2])
    simp only [List.length_cons]
    omega

end ConfigTree.Reference
