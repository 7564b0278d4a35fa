import ConfigTree.Proofs.Reference.Expand
import ConfigTree.Proofs.Runs

set_option relaxedAutoImplicit false
set_option autoImplicit false

/-!
# Texts that are put together

A text that stands for something stands for the same before any other text, since the recursion from
left to right is done with it when the other text begins. So what a text stands for is found part by
part: characters other than dollar signs stand for themselves, and a reference for the text of the
value that it names.

## Main definitions

* `ConfigTree.Reference.written` — the text of a reference.
* `ConfigTree.Reference.Names` — the names of the options that store a value.

## Main results

* `ConfigTree.Reference.expandReference_eq_ok_iff` — the references that stand for something.
* `ConfigTree.Reference.expand_append` — a text stands for the same before any other text.
* `ConfigTree.Reference.substitute_append` — so texts are substituted one after the other.
* `ConfigTree.Reference.expand_of_no_dollar` — a text without dollar signs stands for itself.
* `ConfigTree.Reference.Names.expand_written` — what a reference stands for.
-/

namespace ConfigTree.Reference

variable {lookup : OptionPath → Option Value} {origin context : OptionPath} {hops : ℕ}

/-! ## A text before another one -/

/-- The name at the start of a text is found whatever follows. -/
lemma nameAt?_append {text name tail : List Char} (h : nameAt? text = some (name, tail))
    (more : List Char) : nameAt? (text ++ more) = some (name, tail ++ more) := by
  obtain ⟨hne, hname, rfl⟩ := nameAt?_eq_some_iff.mp h
  exact nameAt?_eq_some_iff.mpr ⟨hne, hname, by simp⟩

/-- Nothing before a result changes it. -/
lemma map_nil_append (result : Except Error (List Char)) : result.map ([] ++ ·) = result := by
  cases result <;> rfl

/-- A reference stands for something if it leads to a value, and if the text of this value and the
text after the reference do. -/
lemma expandReference_eq_ok_iff {name fragment tail found : List Char} :
    expandReference lookup origin hops context name fragment tail = .ok found ↔
      ∃ path value first last, OptionPath.parse? (String.ofList name) = some path ∧
        lookup path = some value ∧ expandValue lookup origin hops path value = .ok first ∧
        expand lookup origin hops context tail = .ok last ∧ found = first ++ last := by
  constructor
  · intro h
    cases hpath : OptionPath.parse? (String.ofList name) with
    | none => simp [expandReference, hpath] at h
    | some path =>
      cases hvalue : lookup path with
      | none => simp [expandReference, hpath, hvalue] at h
      | some value =>
        rw [expandReference_of_value lookup origin hpath hvalue] at h
        obtain ⟨first, hfirst, h⟩ := bind_eq_ok_iff.mp h
        obtain ⟨last, hlast, rfl⟩ := map_eq_ok_iff.mp h
        exact ⟨path, value, first, last, rfl, hvalue, hfirst, hlast, rfl⟩
  · rintro ⟨path, value, first, last, hpath, hvalue, hfirst, hlast, rfl⟩
    rw [expandReference_of_value lookup origin hpath hvalue, hfirst, hlast]
    rfl

/-- **A text that stands for something** stands for the same before any other text.

**Proof sketch.** Induction along the expansion of the first text. It is read as before, since the
name of a reference ends at its brace; where it ends, the other text begins. The text from a
reference on is longer than before, but only errors mention it. -/
lemma expand_append {text found : List Char}
    (h : expand lookup origin hops context text = .ok found) (more : List Char) :
    expand lookup origin hops context (text ++ more) =
      (expand lookup origin hops context more).map (found ++ ·) := by
  induction hops, context, text using expand_induction generalizing found with
  | nil hops context =>
    rw [expand_nil] at h
    obtain rfl := Except.ok.inj h
    rw [List.nil_append, map_nil_append]
  | escape hops context rest ih =>
    rw [expand_escape] at h
    obtain ⟨last, hlast, rfl⟩ := map_eq_ok_iff.mp h
    rw [List.cons_append, List.cons_append, expand_escape, ih hlast]
    cases expand lookup origin hops context more <;> rfl
  | reference hops context rest name tail hname _ ih =>
    rw [expand_name lookup origin hops context hname] at h
    obtain ⟨path, value, first, last, hpath, hvalue, hfirst, hlast, rfl⟩ :=
      expandReference_eq_ok_iff.mp h
    rw [List.cons_append, List.cons_append,
      expand_name lookup origin hops context (nameAt?_append hname more),
      expandReference_of_value lookup origin hpath hvalue, hfirst, ih hlast]
    cases expand lookup origin hops context more with
    | error e => rfl
    | ok other => simp [bind, Except.bind, Except.map]
  | noName hops context rest hname =>
    rw [expand_noName lookup origin hops context hname] at h
    cases h
  | lone hops context rest h₁ h₂ =>
    rw [expand_lone lookup origin hops context h₁ h₂] at h
    cases h
  | char hops context c rest hc ih =>
    rw [expand_char lookup origin hops context hc] at h
    obtain ⟨last, hlast, rfl⟩ := map_eq_ok_iff.mp h
    rw [List.cons_append, expand_char lookup origin hops context hc, ih hlast]
    cases expand lookup origin hops context more <;> rfl

/-- A text is the substitution of another one exactly if its characters are the expansion of the
characters of that one, from the origin on and in no hops. -/
lemma substitute_eq_ok_iff {raw text : String} :
    substitute lookup origin raw = .ok text ↔
      expand lookup origin 0 origin raw.toList = .ok text.toList := by
  rw [substitute, run_start, map_eq_ok_iff]
  constructor
  · rintro ⟨found, hfound, rfl⟩
    rw [hfound, String.toList_ofList]
  · intro h
    exact ⟨_, h, String.ofList_toList⟩

/-- **Texts are substituted one after the other**, if there is no mistake in the first one. -/
lemma substitute_append {raw text : String} (h : substitute lookup origin raw = .ok text)
    (more : String) :
    substitute lookup origin (raw ++ more) =
      (substitute lookup origin more).map (text ++ ·) := by
  have happend := expand_append (substitute_eq_ok_iff.mp h) more.toList
  rw [substitute, run_start, String.toList_append, happend, substitute, run_start]
  cases expand lookup origin 0 origin more.toList with
  | error e => rfl
  | ok found => simp [Except.map]

/-- A text without dollar signs stands for itself. -/
lemma expand_of_no_dollar {text : List Char} (h : '$' ∉ text) :
    expand lookup origin hops context text = .ok text := by
  induction text with
  | nil => rw [expand_nil]
  | cons c rest ih =>
    obtain ⟨hc, hrest⟩ : '$' ≠ c ∧ '$' ∉ rest := by simpa using h
    rw [expand_char lookup origin hops context hc.symm, ih hrest]
    rfl

/-- **Texts with a separator between them** stand for what they stand for one by one, with the
separator between them, if it has no dollar signs. -/
lemma expand_intercalate {separator : List Char} (hseparator : '$' ∉ separator)
    {texts found : List (List Char)}
    (h : List.Forall₂ (fun text result => expand lookup origin hops context text = .ok result)
      texts found) :
    expand lookup origin hops context (separator.intercalate texts) =
      .ok (separator.intercalate found) := by
  induction h with
  | nil => exact expand_nil lookup origin hops context
  | @cons text result texts found htext hrest ih =>
    cases hrest with
    | nil =>
      rw [List.intercalate_singleton, List.intercalate_singleton]
      exact htext
    | cons =>
      rw [List.intercalate_cons_cons, List.intercalate_cons_cons, List.append_assoc,
        List.append_assoc, expand_append htext, expand_append (expand_of_no_dollar hseparator), ih]
      rfl

/-! ## References -/

/-- The text of the reference with the given name. -/
def written (name : String) : String :=
  "$\x7b" ++ name ++ "\x7d"

/-- The name is that of a reference, and the option that it refers to stores the value. -/
structure Names (lookup : OptionPath → Option Value) (name : String) (value : Value) : Prop where
  /-- The characters of the name can stand in a reference. -/
  isNameChar : ∀ c ∈ name.toList, isNameChar c
  /-- The name is the full path of an option with the value. -/
  exists_target : ∃ target, OptionPath.parse? name = some target ∧ lookup target = some value

namespace Names

variable {name : String} {value : Value}

/-- The name of an option is not empty. -/
lemma toList_ne_nil (h : Names lookup name value) : name.toList ≠ [] := by
  intro hnil
  obtain ⟨target, htarget, -⟩ := h.exists_target
  obtain rfl : name = "" := by simpa using hnil
  simp [OptionPath.parse?, Text.segments, Text.pieces, OptionPath.ofList?] at htarget

/-- **A reference** stands for what the text of its value stands for, one hop further.

**Proof sketch.** The name ends at the brace, and no text is left after it. -/
lemma expand_written (h : Names lookup name value) {found : List Char}
    (hfound : ∀ target, expandValue lookup origin 0 target value = .ok found) :
    expand lookup origin 0 context (written name).toList = .ok found := by
  obtain ⟨target, htarget, hlookup⟩ := h.exists_target
  have htext : (written name).toList = '$' :: '\x7b' :: (name.toList ++ ['\x7d']) := by
    simp [written]
  have hname : nameAt? (name.toList ++ ['\x7d']) = some (name.toList, []) :=
    nameAt?_eq_some_iff.mpr ⟨h.toList_ne_nil, h.isNameChar, rfl⟩
  rw [htext, expand_name lookup origin 0 context hname, expandReference_eq_ok_iff]
  refine ⟨target, value, found, [], ?_, hlookup, hfound target, expand_nil .., ?_⟩
  · rw [String.ofList_toList, htarget]
  · rw [List.append_nil]

/-- A reference to a value that is no text stands for the literal text of the value. -/
lemma expand_written_of_not_string (h : Names lookup name value) (hvalue : value.isString = false) :
    expand lookup origin 0 context (written name).toList = .ok value.toLiteral.toList := by
  have hhops : 0 < hopLimit := Nat.zero_lt_one
  apply h.expand_written
  intro target
  rw [expandValue, if_pos hhops, hvalue, if_neg Bool.false_ne_true]

/-- A reference to a text stands for what this text stands for at the next hop. -/
lemma expand_written_of_string {text : String} (h : Names lookup name (.string text))
    {found : List Char}
    (hfound : ∀ target, expand lookup origin 1 target text.toList = .ok found) :
    expand lookup origin 0 context (written name).toList = .ok found :=
  h.expand_written hfound

end Names

end ConfigTree.Reference
