import ConfigTree.Proofs.Value.NumberGrammar
import ConfigTree.Proofs.Value.Quoted

set_option relaxedAutoImplicit false
set_option autoImplicit false

/-!
# The grammar of literals

A literal is a word, a number, a quoted text, or literals between brackets or parentheses, with
commas between them. The reader of literals accepts exactly the texts of this grammar, with blanks
around them, and finds the values that the grammar gives to them.

## Main definitions

* `ConfigTree.Value.Item` — a literal between brackets, with the blanks around it.
* `ConfigTree.Value.Ending` — what may follow the last item before the closing bracket.
* `ConfigTree.Value.Literal` — the literals and the values that they denote.
* `ConfigTree.Value.Reads` — the texts that the reader takes for a value wherever they stand.

## Main results

* `ConfigTree.Value.parseLiteral?_induction` — induction over the literals inside a literal.
* `ConfigTree.Value.Literal.reads` — the reader accepts the literals of the grammar.
* `ConfigTree.Value.literal_of_parseLiteral?` — the reader accepts nothing else.
* `ConfigTree.Value.literals_characterized` — both, with what they mean for inference.

## Implementation notes

The reader first cuts the inside of brackets at commas, and then reads each part on its own. That
it finds the parts of the grammar needs more than that it reads each of them: the scan that cuts
must keep each part whole. `Reads` says both, so that one induction over the grammar gives them.
-/

namespace ConfigTree.Value

open Text (trim isBlank)

/-! ## The grammar -/

/-- A part between brackets: the text of a literal with blanks around it, and the value of the
literal. -/
structure Item where
  /-- The blanks before the literal. -/
  before : List Char
  /-- The literal. -/
  text : List Char
  /-- The blanks after the literal. -/
  after : List Char
  /-- What the literal denotes. -/
  value : Value
  /-- Only blanks stand before the literal. -/
  isBlank_before : ∀ c ∈ before, isBlank c = true
  /-- Only blanks stand after it. -/
  isBlank_after : ∀ c ∈ after, isBlank c = true

/-- The item as it is written. -/
def Item.written (item : Item) : List Char :=
  item.before ++ item.text ++ item.after

/-- What may stand between the last item and the closing bracket. -/
inductive Ending : List Char → Prop where
  /-- Nothing. -/
  | nothing : Ending []
  /-- A comma, and blanks after it. -/
  | comma {blanks : List Char} (hblanks : ∀ c ∈ blanks, isBlank c = true) : Ending (',' :: blanks)

/-- The text is a literal, without blanks around it, and denotes the value. -/
inductive Literal : List Char → Value → Prop where
  /-- The word for the absence of a value. -/
  | absence : Literal "None".toList .null
  /-- The word for true. -/
  | truth : Literal "True".toList (.bool true)
  /-- The word for false. -/
  | falsehood : Literal "False".toList (.bool false)
  /-- A number. -/
  | number {text : List Char} {value : Value} (h : Number text value) : Literal text value
  /-- A text between two quotes of the same kind. -/
  | quoted {quote : Char} {body found : List Char} (hquote : quote = '\x27' ∨ quote = '"')
      (hbody : Quoted quote body found) :
      Literal (quote :: body ++ [quote]) (.string (String.ofList found))
  /-- Nothing but blanks between brackets. -/
  | empty {blanks : List Char} (round : Bool) (hblanks : ∀ c ∈ blanks, isBlank c = true) :
      Literal (enclose round blanks) (.sequence [])
  /-- Items between brackets with commas between them. A single item between parentheses needs a
  comma after it. -/
  | sequence {items : List Item} {ending : List Char} (round : Bool) (hne : items ≠ [])
      (hitems : ∀ item ∈ items, Literal item.text item.value) (hending : Ending ending)
      (hsingle : round = true → items.length = 1 → ending ≠ []) :
      Literal (enclose round ([','].intercalate (items.map Item.written) ++ ending))
        (.sequence (items.map Item.value))
  /-- A single item between parentheses, without a comma. -/
  | parenthesized {item : Item} (hitem : Literal item.text item.value) :
      Literal (enclose true item.written) item.value

/-! ## Reading the literals of the grammar -/

/-- The text is read as the value, as a whole and as a part between commas. -/
structure Reads (text : List Char) (value : Value) : Prop where
  /-- There are no blanks at its ends. -/
  trim_eq : trim text = text
  /-- It is not empty. -/
  ne_nil : text ≠ []
  /-- A scan keeps it, so that it can be a part between commas. -/
  kept : Kept 0 text
  /-- It is read as the value. -/
  parse : parseLiteral? text = some value

/-- A text that is read as a part does not vanish when it is trimmed. -/
lemma Reads.trim_ne_nil {text : List Char} {value : Value} (h : Reads text value) :
    trim text ≠ [] := by
  rw [h.trim_eq]
  exact h.ne_nil

namespace Item

variable {item : Item}

/-- The blanks around an item are trimmed. -/
lemma trim_written (item : Item) : trim item.written = trim item.text := by
  rw [written, Text.trim_append_blanks item.isBlank_after,
    Text.trim_blanks_append item.isBlank_before]

/-- The blanks around an item do not keep a scan from keeping it. -/
lemma kept_written (h : Kept 0 item.text) : Kept 0 item.written :=
  ((Kept.of_blanks item.isBlank_before).append h).append (.of_blanks item.isBlank_after)

/-- An item is read with the blanks around it. -/
lemma parse_written (h : Reads item.text item.value) :
    parseLiteral? item.written = some item.value := by
  rw [parseLiteral?_congr item.trim_written, h.parse]

end Item

section Items

variable {items : List Item}

/-- Items with the blanks around them are kept, and none is blank. -/
lemma kept_written (h : ∀ item ∈ items, Reads item.text item.value) :
    ∀ part ∈ items.map Item.written, Kept 0 part ∧ trim part ≠ [] := by
  refine List.forall_mem_map.mpr fun item hitem => ⟨Item.kept_written (h item hitem).kept, ?_⟩
  rw [item.trim_written]
  exact (h item hitem).trim_ne_nil

/-- Items with the blanks around them are read as their values. -/
lemma mapM_written (h : ∀ item ∈ items, Reads item.text item.value) :
    (items.map Item.written).mapM parseLiteral? = some (items.map Item.value) := by
  rw [mapM_eq_some_iff, List.forall₂_map_left_iff, List.forall₂_map_right_iff, List.forall₂_same]
  exact fun item hitem => Item.parse_written (h item hitem)

/-- Parts make up a sequence, unless there is one value in parentheses without a comma after it. -/
lemma assemble_eq_sequence {round : Bool} {parts : List (List Char)} {values : List Value}
    (h : round = true → parts.length = 1 → values.length ≠ 1) :
    assemble round parts values = .sequence values := by
  unfold assemble
  split
  · exact absurd rfl (h rfl rfl)
  · rfl

/-- Items without a comma after the last one are read. -/
lemma parseLiteral?_items_nothing (round : Bool) (hne : items ≠ [])
    (h : ∀ item ∈ items, Reads item.text item.value) :
    parseLiteral? (enclose round ([','].intercalate (items.map Item.written))) =
      some (assemble round (items.map Item.written) (items.map Item.value)) := by
  have hparts : items.map Item.written ≠ [] := by simpa using hne
  rw [parseLiteral?_parts round hparts fun part hpart => (kept_written h part hpart).1,
    dropBlankLast_of_forall fun part hpart => (kept_written h part hpart).2, mapM_written h,
    Option.map_some]

/-- A last part after other parts has a comma before it. -/
lemma intercalate_concat {parts : List (List Char)} (hne : parts ≠ []) (last : List Char) :
    [','].intercalate (parts ++ [last]) = [','].intercalate parts ++ ',' :: last := by
  induction parts with
  | nil => exact absurd rfl hne
  | cons part rest ih =>
    cases rest with
    | nil => simp [List.intercalate_cons_cons]
    | cons next more =>
      rw [List.cons_append, List.cons_append, List.intercalate_cons_cons, ← List.cons_append,
        ih (List.cons_ne_nil _ _), List.intercalate_cons_cons, List.append_assoc, List.append_assoc,
        List.append_assoc]

/-- Items with a comma after the last one are read. -/
lemma parseLiteral?_items_comma (round : Bool) (hne : items ≠ [])
    (h : ∀ item ∈ items, Reads item.text item.value) {blanks : List Char}
    (hblanks : ∀ c ∈ blanks, isBlank c = true) :
    parseLiteral? (enclose round ([','].intercalate (items.map Item.written) ++ ',' :: blanks)) =
      some (.sequence (items.map Item.value)) := by
  have hparts : items.map Item.written ≠ [] := by simpa using hne
  have hkept : ∀ part ∈ items.map Item.written ++ [blanks], Kept 0 part := by
    refine List.forall_mem_append.mpr ⟨fun part hpart => (kept_written h part hpart).1, ?_⟩
    exact List.forall_mem_singleton.mpr (.of_blanks hblanks)
  have hsequence : assemble round (items.map Item.written ++ [blanks]) (items.map Item.value) =
      .sequence (items.map Item.value) := by
    refine assemble_eq_sequence fun _ hlength => ?_
    simp [hne] at hlength
  rw [← intercalate_concat hparts, parseLiteral?_parts round (by simp) hkept,
    dropBlankLast_concat (Text.trim_eq_nil_iff.mpr hblanks), mapM_written h, Option.map_some,
    hsequence]

/-- The end of a sequence is kept inside of its brackets. -/
lemma Ending.kept {ending : List Char} (h : Ending ending) : Kept 1 ending := by
  cases h with
  | nothing => exact .nil
  | comma hblanks =>
    have hcomma : Kept 1 [','] := Kept.comma
    exact hcomma.append (.of_blanks hblanks)

/-- Items with commas between them are kept inside of brackets. -/
lemma kept_items (h : ∀ item ∈ items, Reads item.text item.value) :
    Kept 1 ([','].intercalate (items.map Item.written)) :=
  Kept.intercalate Kept.comma fun part hpart =>
    (kept_written h part hpart).1.mono (Nat.zero_le 1)

end Items

/-- A text in brackets is read as a part if it is kept inside of them. -/
lemma Reads.enclose {round : Bool} {inner : List Char} {value : Value} (hkept : Kept 1 inner)
    (hparse : parseLiteral? (Value.enclose round inner) = some value) :
    Reads (Value.enclose round inner) value where
  trim_eq := trim_enclose round inner
  ne_nil := enclose_ne_nil round inner
  kept := hkept.enclose round
  parse := hparse

/-- A word without quotes, brackets and commas is read as a part if it is a literal. -/
lemma reads_word {text : List Char} {value : Value} (hne : text ≠ []) (htrim : trim text = text)
    (hkept : (text.all fun c => c ∉ "'\"[(\x7b])\x7d,".toList) = true)
    (hbrackets : bracketed? (trim text) = none) (h : scalarLiteral? text = some value) :
    Reads text value where
  trim_eq := htrim
  ne_nil := hne
  kept := Kept.of_forall (List.all_iff_forall_prop.mp hkept)
  parse := by rw [parseLiteral?_of_scalar hbrackets, htrim, h]

/-- A number literal is read as a part. -/
lemma Number.reads {text : List Char} {value : Value} (h : Number text value) :
    Reads text value := by
  have htrim : trim text = text := by
    refine Text.trim_of_forall fun c hc => ?_
    obtain ⟨hlo, hhi⟩ := (h.isNumberChar c hc).visible
    exact Text.isBlank_of_visible hlo hhi
  have hkept : Kept 0 text := by
    refine Kept.of_forall fun c hc hmem => ?_
    have hnone : ∀ c ∈ "'\"[(\x7b])\x7d,".toList, ¬ IsNumberChar c :=
      List.all_iff_forall_prop.mp (by decide)
    exact hnone c hmem (h.isNumberChar c hc)
  obtain ⟨c, rest, rfl, hc⟩ := h.exists_head
  exact ⟨htrim, List.cons_ne_nil c rest, hkept,
    (parseLiteral?_of_number_head htrim hc).trans (numberLiteral?_eq_some_iff.mpr h)⟩

/-- A quoted text is read as a part. -/
lemma Quoted.reads {quote : Char} {body found : List Char} (h : Quoted quote body found)
    (hquote : quote = '\x27' ∨ quote = '"') :
    Reads (quote :: body ++ [quote]) (.string (String.ofList found)) where
  trim_eq := by rcases hquote with rfl | rfl <;> exact Text.trim_between (by decide) (by decide) body
  ne_nil := List.cons_ne_nil _ _
  kept := h.kept hquote
  parse := parseLiteral?_quoted h hquote

/-- **The reader accepts the literals** of the grammar.

**Proof sketch.** Induction on the literal. The parts between brackets are kept and read by
induction, so that the reader finds them again; a comma after the last one leaves a blank part,
which is dropped. -/
lemma Literal.reads {text : List Char} {value : Value} (h : Literal text value) :
    Reads text value := by
  induction h with
  | absence => exact reads_word (by decide) (by decide) (by decide) (by decide) rfl
  | truth => exact reads_word (by decide) (by decide) (by decide) (by decide) rfl
  | falsehood => exact reads_word (by decide) (by decide) (by decide) (by decide) rfl
  | number h => exact h.reads
  | quoted hquote hbody => exact hbody.reads hquote
  | @empty blanks round hblanks =>
    refine .enclose (.of_blanks hblanks) ?_
    have hread := parseLiteral?_parts round (List.cons_ne_nil blanks [])
      (List.forall_mem_singleton.mpr (.of_blanks hblanks))
    have hdrop : dropBlankLast [blanks] = [] := by
      rw [← List.nil_append [blanks], dropBlankLast_concat (Text.trim_eq_nil_iff.mpr hblanks)]
    rw [List.intercalate_singleton, hdrop] at hread
    rw [hread, List.mapM_nil]
    exact congrArg some (assemble_eq_sequence (by simp))
  | @sequence items ending round hne _ hending hsingle ih =>
    refine .enclose ((kept_items ih).append hending.kept) ?_
    cases hending with
    | nothing =>
      rw [List.append_nil, parseLiteral?_items_nothing round hne ih, assemble_eq_sequence]
      rintro rfl hlength
      exact absurd rfl (hsingle rfl (by simpa using hlength))
    | comma hblanks => exact parseLiteral?_items_comma round hne ih hblanks
  | @parenthesized item _ ih =>
    have hitem : ∀ item' ∈ [item], Reads item'.text item'.value := List.forall_mem_singleton.mpr ih
    refine .enclose ((Item.kept_written ih.kept).mono (Nat.zero_le 1)) ?_
    have hread := parseLiteral?_items_nothing true (List.cons_ne_nil item []) hitem
    rwa [List.map_singleton, List.intercalate_singleton] at hread

/-! ## The grammar of what is read -/

/-- **Induction over literals**: through the literals between the brackets, down to those without
brackets around them. -/
theorem parseLiteral?_induction {motive : List Char → Value → Prop}
    (scalar : ∀ text value, scalarLiteral? (trim text) = some value → motive text value)
    (group : ∀ text round inner parts values, trim text = enclose round inner →
      cut? inner = some parts → List.Forall₂ motive (dropBlankLast parts) values →
      motive text (assemble round parts values))
    {text : List Char} {value : Value} (h : parseLiteral? text = some value) :
    motive text value := by
  induction hn : text.length using Nat.strongRecOn generalizing text value with
  | _ n ih =>
    cases hbrackets : bracketed? (trim text) with
    | none =>
      rw [parseLiteral?_of_scalar hbrackets] at h
      exact scalar text value h
    | some found =>
      obtain ⟨round, inner⟩ := found
      rw [parseLiteral?_of_bracketed hbrackets] at h
      obtain ⟨parts, hcut, h⟩ := Option.bind_eq_some_iff.mp h
      obtain ⟨values, hvalues, rfl⟩ := Option.map_eq_some_iff.mp h
      have hshorter : ∀ part ∈ dropBlankLast parts, part.length < n := by
        intro part hpart
        have h₁ := length_le_of_mem_cutFrom hcut part (mem_of_mem_dropBlankLast hpart)
        have h₂ := length_lt_of_bracketed hbrackets
        have h₃ := length_trim_le text
        omega
      have hparts := (List.forall₂_and_left _ _).mpr ⟨hshorter, mapM_eq_some_iff.mp hvalues⟩
      refine group text round inner parts values (bracketed?_eq_some_iff.mp hbrackets) hcut ?_
      exact hparts.imp fun part value ⟨hlength, hread⟩ => ih part.length hlength hread rfl

/-- A literal without brackets around it is a word, a number or a quoted text. -/
lemma literal_of_scalarLiteral? {text : List Char} {value : Value}
    (h : scalarLiteral? text = some value) : Literal text value := by
  unfold scalarLiteral? at h
  split at h
  · obtain ⟨found, hfound, rfl⟩ := Option.map_eq_some_iff.mp h
    obtain ⟨body, rfl, hbody⟩ := (unquote?_eq_some_iff (by decide)).mp hfound
    exact .quoted (.inl rfl) hbody
  · obtain ⟨found, hfound, rfl⟩ := Option.map_eq_some_iff.mp h
    obtain ⟨body, rfl, hbody⟩ := (unquote?_eq_some_iff (by decide)).mp hfound
    exact .quoted (.inr rfl) hbody
  · unfold wordLiteral? at h
    split at h
    · rename_i hword
      obtain rfl := Option.some.inj h
      exact hword ▸ .absence
    split at h
    · rename_i hword
      obtain rfl := Option.some.inj h
      exact hword ▸ .truth
    split at h
    · rename_i hword
      obtain rfl := Option.some.inj h
      exact hword ▸ .falsehood
    · exact .number (numberLiteral?_eq_some_iff.mp h)

/-- Parts that are literals with blanks around them are items. -/
lemma exists_items {parts : List (List Char)} {values : List Value}
    (h : List.Forall₂ (fun part value => Literal (trim part) value) parts values) :
    ∃ items : List Item, items.map Item.written = parts ∧ items.map Item.value = values ∧
      ∀ item ∈ items, Literal item.text item.value := by
  induction h with
  | nil => exact ⟨[], rfl, rfl, by simp⟩
  | @cons part value _ _ hliteral _ ih =>
    obtain ⟨items, rfl, rfl, hitems⟩ := ih
    obtain ⟨before, after, hpart, hbefore, hafter⟩ := Text.exists_trim part
    refine ⟨⟨before, trim part, after, value, hbefore, hafter⟩ :: items, ?_, rfl,
      List.forall_mem_cons.mpr ⟨hliteral, hitems⟩⟩
    exact congrArg (· :: items.map Item.written) hpart.symm

/-- A blank last part is dropped, and no other part. -/
lemma dropBlankLast_cases (parts : List (List Char)) :
    (∃ last, parts = dropBlankLast parts ++ [last] ∧ ∀ c ∈ last, isBlank c = true) ∨
      dropBlankLast parts = parts := by
  rcases List.eq_nil_or_concat' parts with rfl | ⟨init, last, rfl⟩
  · exact .inr rfl
  · by_cases hblank : trim last = []
    · rw [dropBlankLast_concat hblank]
      exact .inl ⟨last, rfl, Text.trim_eq_nil_iff.mp hblank⟩
    · right
      simp [dropBlankLast, hblank]

/-- **The reader accepts only literals** of the grammar, with blanks around them.

**Proof sketch.** Induction over the literals inside of the literal. What stands between brackets
is the text of the parts with commas between them, and each part is an item by induction. -/
lemma literal_of_parseLiteral? {text : List Char} {value : Value}
    (h : parseLiteral? text = some value) : Literal (trim text) value := by
  refine parseLiteral?_induction (fun _ _ => literal_of_scalarLiteral?) ?_ h
  intro text round inner parts values htext hcut hparts
  obtain ⟨hne, rfl⟩ := intercalate_of_cut? hcut
  rw [htext]
  obtain ⟨items, hwritten, rfl, hitems⟩ := exists_items hparts
  rcases dropBlankLast_cases parts with ⟨last, hlast, hblanks⟩ | hall
  · rw [hlast, ← hwritten]
    by_cases hnone : items = []
    · subst hnone
      rw [List.map_nil, List.map_nil, List.nil_append, List.intercalate_singleton,
        assemble_eq_sequence (by simp)]
      exact .empty round hblanks
    · have hmap : items.map Item.written ≠ [] := by simpa using hnone
      rw [intercalate_concat hmap, assemble_eq_sequence (by simp [hnone])]
      exact .sequence round hnone hitems (.comma hblanks) fun _ _ => List.cons_ne_nil _ _
  · rw [hall] at hwritten
    subst hwritten
    have hnone : items ≠ [] := by simpa using hne
    by_cases hsingle : round = true ∧ items.length = 1
    · obtain ⟨rfl, hlength⟩ := hsingle
      obtain ⟨item, rfl⟩ := List.length_eq_one_iff.mp hlength
      rw [List.map_singleton, List.intercalate_singleton]
      exact .parenthesized (hitems item List.mem_cons_self)
    · rw [← List.append_nil ([','].intercalate _), assemble_eq_sequence]
      · exact .sequence round hnone hitems .nothing fun hround hlength =>
          absurd ⟨hround, hlength⟩ hsingle
      · rintro hround hlength
        exact absurd ⟨hround, by simpa using hlength⟩ hsingle

/-- **The literals** are exactly the texts of the grammar with blanks around them. -/
lemma parseLiteral?_eq_some_iff {text : List Char} {value : Value} :
    parseLiteral? text = some value ↔ Literal (trim text) value := by
  constructor
  · exact literal_of_parseLiteral?
  · intro h
    rw [parseLiteral?_congr (Text.trim_trim text).symm]
    exact h.reads.parse

/-- Literals with commas between them and brackets around them are a literal for the sequence of what
they denote. -/
lemma parseLiteral?_spliced {texts : List (List Char)} {values : List Value} (hne : texts ≠ [])
    (h : List.Forall₂ (fun text value => parseLiteral? text = some value) texts values) :
    parseLiteral? ('[' :: [','].intercalate texts ++ [']']) = some (.sequence values) := by
  obtain ⟨items, rfl, rfl, hitems⟩ := exists_items (h.imp fun _ _ => literal_of_parseLiteral?)
  have hreads : ∀ item ∈ items, Reads item.text item.value := fun item hitem =>
    (hitems item hitem).reads
  have hparse := parseLiteral?_items_nothing false (by simpa using hne) hreads
  exact hparse.trans (congrArg some (assemble_eq_sequence (by simp)))

/-- **Literals are the texts of the grammar.** The reader of literals takes a text for a value exactly
if the text without the blanks around it is a literal for this value. Literals of any kind can be
spliced into brackets. Inference gives the value of a literal, and leaves any other text as it is,
with the blanks around it.

**Proof sketch.** Both directions are inductions over the literals inside of a literal. The reader
accepts each literal of the grammar, since the scan of the inside of brackets keeps the literals
whole; what it accepts is a literal, since the parts with commas between them are the inside of the
brackets. -/
theorem literals_characterized :
    (∀ text value, parseLiteral? text = some value ↔ Literal (trim text) value) ∧
    (∀ texts values, texts ≠ [] →
      List.Forall₂ (fun text value => parseLiteral? text = some value) texts values →
      parseLiteral? ('[' :: [','].intercalate texts ++ [']']) = some (.sequence values)) ∧
    ∀ text : String, (∀ value, Literal (trim text.toList) value → infer text = value) ∧
      ((∀ value, ¬ Literal (trim text.toList) value) → infer text = .string text) := by
  refine ⟨fun _ _ => parseLiteral?_eq_some_iff, fun _ _ => parseLiteral?_spliced, fun text => ⟨?_, ?_⟩⟩
  · intro value h
    rw [infer, parseLiteral?_eq_some_iff.mpr h, Option.getD_some]
  · intro h
    have hnone : parseLiteral? text.toList = none := by
      rw [Option.eq_none_iff_forall_ne_some]
      exact fun value hvalue => h value (parseLiteral?_eq_some_iff.mp hvalue)
    rw [infer, hnone, Option.getD_none]

/-- The texts ` 7` and `'a'` are literals, and so is `[ 7,'a']`; the text `7 a` is none. -/
theorem literals_characterized_spliced :
    parseLiteral? " 7".toList = some (.integer 7) ∧
    parseLiteral? "'a'".toList = some (.string "a") ∧
    parseLiteral? "[ 7,'a']".toList = some (.sequence [.integer 7, .string "a"]) ∧
    infer " 7" = .integer 7 ∧ infer " 7 a" = .string " 7 a" := by
  have hdigit : IsDigitOf 10 '7' 7 := by decide
  have hseven : Literal (trim " 7".toList) (.integer 7) :=
    .number (.decimal .plain hdigit .nil (by decide) (by decide) (by decide))
  have hquoted : Literal (trim "'a'".toList) (.string "a") :=
    .quoted (.inl rfl) (.plain (by decide) (by decide) .nil)
  obtain ⟨hliterals, hspliced, hinfer⟩ := literals_characterized
  have hseven' := (hliterals _ _).mpr hseven
  have hquoted' := (hliterals _ _).mpr hquoted
  have hnone : parseLiteral? " 7 a".toList = none := by
    have hscalar : (scalarLiteral? (trim " 7 a".toList)).isNone = true := by decide
    rw [parseLiteral?_of_scalar (by decide), Option.isNone_iff_eq_none.mp hscalar]
  refine ⟨hseven', hquoted', hspliced [" 7".toList, "'a'".toList] _ (by decide)
    (.cons hseven' (.cons hquoted' .nil)), (hinfer " 7").1 _ hseven, (hinfer " 7 a").2 ?_⟩
  intro value h
  have hread := (hliterals _ _).mpr h
  rw [hnone] at hread
  simp at hread

end ConfigTree.Value
