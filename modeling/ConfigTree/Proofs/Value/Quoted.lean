import ConfigTree.Proofs.Value.Cut

set_option relaxedAutoImplicit false
set_option autoImplicit false

/-!
# Quoted texts

Between two quotes stand characters other than the quote and the backslash, and backslashes with one
character after each. There are two readers of such texts: one that finds the text that they stand
for, and the scan of the enclosing brackets, which passes over them. Both read the same texts.

## Main definitions

* `ConfigTree.Value.escapes` — the escapes and the characters that they stand for.
* `ConfigTree.Value.Quoted` — the texts that can stand between two quotes.

## Main results

* `ConfigTree.Value.unquote?_eq_some_iff` — the texts that the first reader accepts.
* `ConfigTree.Value.Quoted.kept` — the scan keeps them whole.
* `ConfigTree.Value.Quoted.mem_of_mem` — the characters that they stand for.
* `ConfigTree.Value.parseLiteral?_quoted` — what they denote as literals.
-/

namespace ConfigTree.Value

open Text (trim)

/-- The characters that may follow a backslash, and what they stand for then. -/
def escapes : List (Char × Char) :=
  [('n', '\n'), ('t', '\t'), ('r', '\r'), ('0', '\x00'), ('\\', '\\'), ('\x27', '\x27'), ('"', '"')]

/-- The text can stand between two quotes, and it stands for the text `found` there. -/
inductive Quoted (quote : Char) : List Char → List Char → Prop where
  /-- There is nothing between the quotes. -/
  | nil : Quoted quote [] []
  /-- A character that stands for itself. -/
  | plain {c : Char} {body found : List Char} (hquote : c ≠ quote) (hbackslash : c ≠ '\\')
      (hbody : Quoted quote body found) : Quoted quote (c :: body) (c :: found)
  /-- An escape. -/
  | escape {c d : Char} {body found : List Char} (hc : (c, d) ∈ escapes)
      (hbody : Quoted quote body found) : Quoted quote ('\\' :: c :: body) (d :: found)
  /-- A backslash that starts no escape, and the character after it. -/
  | unknown {c : Char} {body found : List Char} (hc : ∀ d, (c, d) ∉ escapes)
      (hbody : Quoted quote body found) : Quoted quote ('\\' :: c :: body) ('\\' :: c :: found)

/-- A known escape stands for its character. -/
lemma unescape_of_mem {c d : Char} (h : (c, d) ∈ escapes) : unescape c = [d] := by
  have hall : ∀ entry ∈ escapes, unescape entry.1 = [entry.2] := by decide
  exact hall (c, d) h

/-- Any other escape stands for itself, with its backslash. -/
lemma unescape_of_unknown {c : Char} (h : ∀ d, (c, d) ∉ escapes) : unescape c = ['\\', c] := by
  unfold unescape
  split
  · exact absurd (by decide) (h '\n')
  · exact absurd (by decide) (h '\t')
  · exact absurd (by decide) (h '\r')
  · exact absurd (by decide) (h '\x00')
  · exact absurd (by decide) (h '\\')
  · exact absurd (by decide) (h '\x27')
  · exact absurd (by decide) (h '"')
  · rfl

namespace Quoted

variable {quote : Char} {body found : List Char}

/-- A backslash with any character after it can stand between quotes. -/
lemma backslash (c : Char) (h : Quoted quote body found) :
    Quoted quote ('\\' :: c :: body) (unescape c ++ found) := by
  by_cases hc : ∃ d, (c, d) ∈ escapes
  · obtain ⟨d, hd⟩ := hc
    rw [unescape_of_mem hd]
    exact .escape hd h
  · have hunknown : ∀ d, (c, d) ∉ escapes := fun d hd => hc ⟨d, hd⟩
    rw [unescape_of_unknown hunknown]
    exact .unknown hunknown h

/-- The text before the closing quote is read. -/
lemma unquote?_eq (h : Quoted quote body found) (hquote : quote ≠ '\\') :
    unquote? quote (body ++ [quote]) = some found := by
  induction h with
  | nil =>
    rw [List.nil_append, unquote?, if_pos rfl]
    · rfl
    · exact fun heq => absurd heq hquote
    · exact fun _ _ heq => absurd heq hquote
  | plain hne hbackslash _ ih =>
    rw [List.cons_append, unquote?, if_neg hne, ih, Option.map_some]
    · exact fun heq => absurd heq hbackslash
    · exact fun _ _ heq => absurd heq hbackslash
  | escape hc _ ih =>
    rw [List.cons_append, List.cons_append, unquote?, ih, Option.map_some, unescape_of_mem hc]
    rfl
  | unknown hc _ ih =>
    rw [List.cons_append, List.cons_append, unquote?, ih, Option.map_some, unescape_of_unknown hc]
    rfl

/-- Between quotes, a scan passes over the text. -/
lemma after_eq (h : Quoted quote body found) (depth : ℕ) :
    (Scan.inside depth quote).after body = some (.inside depth quote) := by
  induction h with
  | nil => rfl
  | @plain c _ _ hne hbackslash _ ih =>
    have hstep : (Scan.inside depth quote).step c = .keep (.inside depth quote) := by
      simp [Scan.step, hne, hbackslash]
    rw [Scan.after_cons hstep, ih]
  | escape _ _ ih => exact ih
  | unknown _ _ ih => exact ih

/-- **A quoted text** is kept, whatever stands between its quotes. -/
lemma kept (h : Quoted quote body found) (hquote : quote = '\x27' ∨ quote = '"') :
    Kept 0 (quote :: body ++ [quote]) := by
  intro depth _
  have hopen : (Scan.outside depth).step quote = .keep (.inside depth quote) := by
    simp [Scan.step, hquote]
  have hclose : (Scan.inside depth quote).step quote = .keep (.outside depth) := by
    rcases hquote with rfl | rfl <;> rfl
  rw [List.cons_append, Scan.after_cons hopen, Scan.after_append, h.after_eq, Option.bind_some,
    Scan.after_cons hclose, Scan.after]

/-- A character that no escape stands for is found only where it is written. -/
lemma mem_of_mem {d : Char} (h : Quoted quote body found) (hd : ∀ c, (c, d) ∉ escapes)
    (hmem : d ∈ found) : d ∈ body := by
  induction h with
  | nil => exact hmem
  | plain _ _ _ ih =>
    rcases List.mem_cons.mp hmem with rfl | hmem
    · exact List.mem_cons_self
    · exact List.mem_cons_of_mem _ (ih hmem)
  | escape hc _ ih =>
    rcases List.mem_cons.mp hmem with rfl | hmem
    · exact absurd hc (hd _)
    · exact List.mem_cons_of_mem _ (List.mem_cons_of_mem _ (ih hmem))
  | unknown _ _ ih =>
    rcases List.mem_cons.mp hmem with rfl | hmem
    · exact List.mem_cons_self
    refine List.mem_cons_of_mem _ ?_
    rcases List.mem_cons.mp hmem with rfl | hmem
    · exact List.mem_cons_self
    · exact List.mem_cons_of_mem _ (ih hmem)

end Quoted

/-- **The reader of quoted texts** accepts those with a closing quote at their end.

**Proof sketch.** Along the reader, whose cases are the ones of the grammar. -/
lemma unquote?_eq_some_iff {quote : Char} (hquote : quote ≠ '\\') {text found : List Char} :
    unquote? quote text = some found ↔
      ∃ body, text = body ++ [quote] ∧ Quoted quote body found := by
  constructor
  · intro h
    induction text using unquote?.induct quote generalizing found with
    | case1 => simp [unquote?] at h
    | case2 => simp [unquote?] at h
    | case3 c rest ih =>
      rw [unquote?] at h
      obtain ⟨more, hmore, rfl⟩ := Option.map_eq_some_iff.mp h
      obtain ⟨body, rfl, hbody⟩ := ih hmore
      exact ⟨'\\' :: c :: body, rfl, hbody.backslash c⟩
    | case4 rest hrest hend hescape =>
      rw [unquote?, if_pos rfl, if_pos hrest] at h
      · obtain rfl := Option.some.inj h
        exact ⟨[], by rw [List.isEmpty_iff.mp hrest]; rfl, .nil⟩
      · exact hend
      · exact hescape
    | case5 rest hrest hend hescape =>
      rw [unquote?, if_pos rfl, if_neg hrest] at h
      · simp at h
      · exact hend
      · exact hescape
    | case6 c rest hend hescape hc ih =>
      rw [unquote?, if_neg hc] at h
      · obtain ⟨more, hmore, rfl⟩ := Option.map_eq_some_iff.mp h
        obtain ⟨body, rfl, hbody⟩ := ih hmore
        have hbackslash : c ≠ '\\' := by
          rintro rfl
          cases body with
          | nil => exact hescape _ _ rfl rfl
          | cons d body => exact hescape _ _ rfl rfl
        exact ⟨c :: body, rfl, .plain hc hbackslash hbody⟩
      · exact hend
      · exact hescape
  · rintro ⟨body, rfl, hbody⟩
    exact hbody.unquote?_eq hquote

/-- **A quoted text** is a literal for the text that it stands for. -/
lemma parseLiteral?_quoted {quote : Char} {body found : List Char}
    (h : Quoted quote body found) (hquote : quote = '\x27' ∨ quote = '"') :
    parseLiteral? (quote :: body ++ [quote]) = some (.string (String.ofList found)) := by
  have hread : unquote? quote (body ++ [quote]) = some found := by
    refine h.unquote?_eq ?_
    rcases hquote with rfl | rfl <;> decide
  have htrim : trim (quote :: body ++ [quote]) = quote :: body ++ [quote] := by
    rcases hquote with rfl | rfl <;> exact Text.trim_between (by decide) (by decide) body
  have hbrackets : bracketed? (trim (quote :: body ++ [quote])) = none := by
    rw [htrim]
    rcases hquote with rfl | rfl <;> rfl
  rw [parseLiteral?_of_scalar hbrackets, htrim, List.cons_append]
  rcases hquote with rfl | rfl <;> rw [scalarLiteral?, hread, Option.map_some]

end ConfigTree.Value
