import ConfigTree.Decimal.Numeral
import ConfigTree.Text.Basic
import ConfigTree.Value.Basic

set_option relaxedAutoImplicit false
set_option autoImplicit false

/-!
# Literals

A text that is a literal denotes a value: one of the words `None`, `True` and `False`, a number, a
quoted text, or literals between brackets or parentheses. Any other text denotes itself.

Integers are written in decimal digits without leading zeros, or in base 2, 8 or 16 after `0b`, `0o`
or `0x`; single underscores may stand between their digits. A number with a point or an exponent is
a floating-point number. An integer beyond 64 bits is no literal.

The inside of brackets is cut at the commas that stand outside of inner brackets and quotes, and
each part is a literal of its own. One comma may follow the last part. Parentheses around a single
literal without a comma denote that literal; otherwise they denote a sequence, as brackets do.

## Main definitions

* `ConfigTree.Value.ungroup?` — the digits of a word without the underscores between them.
* `ConfigTree.Value.decimalLiteral?`, `ConfigTree.Value.radixLiteral?` — integer literals.
* `ConfigTree.Value.floatLiteral?` — floating-point literals.
* `ConfigTree.Value.numberLiteral?` — all number literals.
* `ConfigTree.Value.unquote?` — the text that stands before a closing quote.
* `ConfigTree.Value.cut?` — the parts of the inside of brackets.
* `ConfigTree.Value.parseLiteral?` — the value of a literal.
* `ConfigTree.Value.infer` — the value that any text denotes.

## Implementation notes

Cutting treats all kinds of brackets alike and only counts them, since the parts are read again as
literals: a bracket that is closed by one of another kind makes one of those readings fail.
-/

namespace ConfigTree.Value

open Decimal
open Text (trim)

/-! ## Number literals -/

/-- The digits of a word in which a single underscore may stand before each digit. -/
def ungroup? (isDigit : Char → Bool) : List Char → Option (List Char)
  | [] => some []
  | '_' :: c :: rest => if isDigit c then (ungroup? isDigit rest).map (c :: ·) else none
  | c :: rest => if isDigit c then (ungroup? isDigit rest).map (c :: ·) else none

/-- Decimal digits have no leading zeros, unless all of them are zeros. -/
def isPlain (digits : List Char) : Bool :=
  digits.head? != some '0' || digits.all (· == '0')

/-- The value of an integer literal in decimal digits. -/
def decimalLiteral? (text : List Char) : Option Int :=
  let (negative, word) := splitSign text
  if word.head?.any Char.isDigit then
    match ungroup? Char.isDigit word with
    | some digits =>
      if isPlain digits then some (signed negative (Nat.ofDigitChars 10 digits 0)) else none
    | none => none
  else none

/-- The value of a digit in base 16. -/
def hexDigit? (c : Char) : Option Nat :=
  if c.isDigit then some (c.toNat - '0'.toNat)
  else if 'a' ≤ c ∧ c ≤ 'f' then some (c.toNat - 'a'.toNat + 10)
  else if 'A' ≤ c ∧ c ≤ 'F' then some (c.toNat - 'A'.toNat + 10)
  else none

/-- The base that a letter after a zero stands for. -/
def base? (c : Char) : Option Nat :=
  if c = 'x' ∨ c = 'X' then some 16
  else if c = 'o' ∨ c = 'O' then some 8
  else if c = 'b' ∨ c = 'B' then some 2
  else none

/-- The value of digits in the given base, each one smaller than the base. -/
def natInBase? (base : Nat) (digits : List Char) : Option Nat :=
  digits.foldlM
    (fun n c => (hexDigit? c).bind fun d => if d < base then some (n * base + d) else none) 0

/-- The sign and the absolute value of an integer literal with a base. -/
def radixLiteral? (text : List Char) : Option (Bool × Nat) :=
  let (negative, word) := splitSign text
  match word with
  | '0' :: letter :: first :: rest => do
    let base ← base? letter
    let digits ← ungroup? (fun c => (hexDigit? c).isSome) (first :: rest)
    let n ← natInBase? base digits
    return (negative, n)
  | _ => none

/-- The value of a floating-point literal, which has a point or an exponent. -/
def floatLiteral? (text : List Char) : Option Binary64 :=
  if text.any (fun c => c == '.' || c == 'e' || c == 'E') then binary64? text else none

/-- The value of a number literal. -/
def numberLiteral? (text : List Char) : Option Value :=
  match decimalLiteral? text with
  | some n => (int64? n).map .integer
  | none =>
    match radixLiteral? text with
    | some (negative, n) => (int64? n).map fun m => .integer (if negative then -m else m)
    | none => (floatLiteral? text).map .float

/-! ## Quoted texts, sequences and words -/

/-- The characters that a backslash and the character `c` stand for. An escape that is not known
keeps its backslash. -/
def unescape (c : Char) : List Char :=
  match c with
  | 'n' => ['\n']
  | 't' => ['\t']
  | 'r' => ['\r']
  | '0' => ['\x00']
  | '\\' => ['\\']
  | '\x27' => ['\x27']
  | '"' => ['"']
  | c => ['\\', c]

/-- The text before the closing quote, which must be the last character. -/
def unquote? (quote : Char) : List Char → Option (List Char)
  | [] => none
  | '\\' :: [] => none
  | '\\' :: c :: rest => (unquote? quote rest).map (unescape c ++ ·)
  | c :: rest =>
    if c = quote then (if rest.isEmpty then some [] else none)
    else (unquote? quote rest).map (c :: ·)

/-- Where a scan over the inside of brackets stands. -/
inductive Scan where
  /-- Outside of quotes, inside of `depth` brackets. -/
  | outside (depth : Nat)
  /-- Inside of quotes. -/
  | inside (depth : Nat) (quote : Char)
  /-- Inside of quotes, just after a backslash. -/
  | escaped (depth : Nat) (quote : Char)

/-- What a character does to a scan. -/
inductive Scan.Step where
  /-- The character belongs to the current part. -/
  | keep (next : Scan)
  /-- The character ends the current part. -/
  | cut
  /-- The character closes a bracket that is not open. -/
  | fail

/-- The effect of one character. -/
def Scan.step : Scan → Char → Scan.Step
  | .escaped depth quote, _ => .keep (.inside depth quote)
  | .inside depth quote, c =>
    if c = '\\' then .keep (.escaped depth quote)
    else if c = quote then .keep (.outside depth)
    else .keep (.inside depth quote)
  | .outside depth, c =>
    if c = '\x27' ∨ c = '"' then .keep (.inside depth c)
    else if c = '[' ∨ c = '(' ∨ c = '\x7b' then .keep (.outside (depth + 1))
    else if c = ']' ∨ c = ')' ∨ c = '\x7d' then
      match depth with
      | 0 => .fail
      | depth + 1 => .keep (.outside depth)
    else if c = ',' ∧ depth = 0 then .cut
    else .keep (.outside depth)

/-- Puts a character before the first of some parts. -/
def consFirst (c : Char) : List (List Char) → List (List Char)
  | [] => [[c]]
  | part :: rest => (c :: part) :: rest

/-- The parts between the commas outside of brackets and quotes, if all of these are closed. -/
def cutFrom? (scan : Scan) : List Char → Option (List (List Char))
  | [] =>
    match scan with
    | .outside 0 => some [[]]
    | _ => none
  | c :: rest =>
    match scan.step c with
    | .keep next => (cutFrom? next rest).map (consFirst c)
    | .cut => (cutFrom? (.outside 0) rest).map ([] :: ·)
    | .fail => none

/-- The parts of the inside of brackets. -/
def cut? (inner : List Char) : Option (List (List Char)) :=
  cutFrom? (.outside 0) inner

/-- A part is never longer than the text that is cut. -/
theorem length_le_of_mem_cutFrom {scan : Scan} {text : List Char} {parts : List (List Char)}
    (h : cutFrom? scan text = some parts) : ∀ part ∈ parts, part.length ≤ text.length := by
  induction text generalizing scan parts with
  | nil =>
    unfold cutFrom? at h
    split at h
    · obtain rfl := Option.some.inj h
      simp
    · simp at h
  | cons c rest ih =>
    unfold cutFrom? at h
    split at h
    · obtain ⟨found, hfound, rfl⟩ := Option.map_eq_some_iff.1 h
      intro part hpart
      have hall := ih hfound
      cases found with
      | nil => simp_all [consFirst]
      | cons first more =>
        rcases List.mem_cons.1 hpart with rfl | hmore
        · have := hall first (by simp)
          simp only [List.length_cons]
          omega
        · have := hall part (by simp [hmore])
          simp only [List.length_cons]
          omega
    · obtain ⟨found, hfound, rfl⟩ := Option.map_eq_some_iff.1 h
      intro part hpart
      rcases List.mem_cons.1 hpart with rfl | hmore
      · simp
      · have := ih hfound part hmore
        simp only [List.length_cons]
        omega
    · simp at h

/-- The parts without a blank one at the end, which a comma after the last literal leaves. -/
def dropBlankLast (parts : List (List Char)) : List (List Char) :=
  match parts.getLast? with
  | some last => if (trim last).isEmpty then parts.dropLast else parts
  | none => parts

/-- Whether the brackets around a text are parentheses, and the text between them. -/
def bracketed? : List Char → Option (Bool × List Char)
  | '[' :: rest => if rest.getLast? = some ']' then some (false, rest.dropLast) else none
  | '(' :: rest => if rest.getLast? = some ')' then some (true, rest.dropLast) else none
  | _ => none

/-- The text between brackets is shorter than the text with them. -/
theorem length_lt_of_bracketed {text inner : List Char} {round : Bool}
    (h : bracketed? text = some (round, inner)) : inner.length < text.length := by
  unfold bracketed? at h
  split at h
  · split at h <;> simp_all
    obtain ⟨-, rfl⟩ := h
    simp only [List.length_dropLast]
    omega
  · split at h <;> simp_all
    obtain ⟨-, rfl⟩ := h
    simp only [List.length_dropLast]
    omega
  · simp at h

/-- Trimming makes no text longer. -/
theorem length_trim_le (text : List Char) : (trim text).length ≤ text.length := by
  have hdrop (l : List Char) : (l.dropWhile Text.isBlank).length ≤ l.length :=
    (List.dropWhile_suffix _).length_le
  unfold Text.trim Text.trimRight Text.trimLeft
  have h₁ := hdrop (text.dropWhile Text.isBlank).reverse
  have h₂ := hdrop text
  simp only [List.length_reverse] at h₁ ⊢
  omega

/-- The parts that remain without a blank last one are parts. -/
theorem mem_of_mem_dropBlankLast {parts : List (List Char)} {part : List Char}
    (h : part ∈ dropBlankLast parts) : part ∈ parts := by
  unfold dropBlankLast at h
  split at h
  · split at h
    · exact List.dropLast_subset _ h
    · exact h
  · exact h

/-- The value of a word or a number. -/
def wordLiteral? (text : List Char) : Option Value :=
  if text = "None".toList then some .null
  else if text = "True".toList then some (.bool true)
  else if text = "False".toList then some (.bool false)
  else numberLiteral? text

/-- The value of a literal without brackets around it. -/
def scalarLiteral? (text : List Char) : Option Value :=
  match text with
  | '\x27' :: rest => (unquote? '\x27' rest).map fun found => .string (String.ofList found)
  | '"' :: rest => (unquote? '"' rest).map fun found => .string (String.ofList found)
  | text => wordLiteral? text

/-- The value that the parts between brackets make up. -/
def assemble (round : Bool) (parts : List (List Char)) (items : List Value) : Value :=
  match round, parts, items with
  | true, [_], [item] => item
  | _, _, items => .sequence items

/-- The value of the literal that the text is, blanks around it aside. -/
def parseLiteral? (text : List Char) : Option Value :=
  match _hbrackets : bracketed? (trim text) with
  | none => scalarLiteral? (trim text)
  | some (round, inner) =>
    match _hcut : cut? inner with
    | none => none
    | some parts =>
      ((dropBlankLast parts).attach.mapM fun part => parseLiteral? part.val).map
        (assemble round parts)
termination_by text.length
decreasing_by
  have h₁ := length_le_of_mem_cutFrom _hcut part.val (mem_of_mem_dropBlankLast part.property)
  have h₂ := length_lt_of_bracketed _hbrackets
  have h₃ := length_trim_le text
  omega

/-- The value that a text denotes: that of the literal it is, or else the text itself. -/
def infer (text : String) : Value :=
  (parseLiteral? text.toList).getD (.string text)

end ConfigTree.Value
