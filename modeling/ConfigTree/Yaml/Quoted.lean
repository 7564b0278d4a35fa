import ConfigTree.Value.Literal
import ConfigTree.Yaml.Glyph

set_option relaxedAutoImplicit false
set_option autoImplicit false

/-!
# Quoted and plain YAML scalars

Scalars may go on over several lines. A single line break inside of them reads as a space, and
further breaks after it as themselves; blanks around breaks do not count.

## Main definitions

* `ConfigTree.Yaml.Gap` — the blanks and breaks between two words of a scalar.
* `ConfigTree.Yaml.quotedScalar?` — a scalar between quotes.
* `ConfigTree.Yaml.plainScalar?` — a scalar without quotes.
-/

namespace ConfigTree.Yaml

/-- The blanks and breaks between two words of a scalar. -/
structure Gap where
  /-- The blanks before the first break. -/
  blanks : List Char := []
  /-- The first break. -/
  first : Option Char := none
  /-- The breaks after it. -/
  more : List Char := []
  /-- Whether there was a break, possibly one that an escape has undone. -/
  broken : Bool := false

/-- What a gap reads as. -/
def Gap.text (gap : Gap) : List Char :=
  if gap.broken then
    match gap.first with
    | some '\n' => if gap.more.isEmpty then [' '] else gap.more
    | some c => c :: gap.more
    | none => gap.more
  else gap.blanks

/-- The gap with one more blank or break. -/
def Gap.add (gap : Gap) (c : Char) : Gap :=
  if isBreak c then
    if gap.broken then { gap with more := gap.more ++ [c] }
    else ⟨[], some c, [], true⟩
  else if gap.broken then gap
  else { gap with blanks := gap.blanks ++ [c] }

/-- The blanks and breaks at the start of the input, added to a gap, and the rest. -/
def readGap (gap : Gap) : List Glyph → Gap × List Glyph
  | [] => (gap, [])
  | g :: rest =>
    if isBlank g.char || isBreak g.char then readGap (gap.add g.char) rest else (gap, g :: rest)

/-- The character that a backslash and `c` stand for, for escapes of one letter. -/
def shortEscape? (c : Char) : Option Char :=
  match c with
  | '0' => some '\x00'
  | 'a' => some '\x07'
  | 'b' => some '\x08'
  | 't' => some '\t'
  | '\t' => some '\t'
  | 'n' => some '\n'
  | 'v' => some '\x0b'
  | 'f' => some '\x0c'
  | 'r' => some '\r'
  | 'e' => some '\x1b'
  | ' ' => some ' '
  | '"' => some '"'
  | '/' => some '/'
  | '\\' => some '\\'
  | 'N' => some '\u0085'
  | '_' => some '\u00a0'
  | 'L' => some '\u2028'
  | 'P' => some '\u2029'
  | _ => none

/-- How many hexadecimal digits follow the letter of an escape by code point. -/
def escapeWidth? (c : Char) : Option Nat :=
  match c with
  | 'x' => some 2
  | 'u' => some 4
  | 'U' => some 8
  | _ => none

/-- The character of an escape after its backslash, and the rest. -/
def escape? (input : List Glyph) : Option (Char × List Glyph) :=
  match input with
  | [] => none
  | g :: rest =>
    match escapeWidth? g.char with
    | some width =>
      match Value.natInBase? 16 ((rest.take width).map Glyph.char) with
      | some n =>
        if width ≤ rest.length ∧ n.isValidChar then some (Char.ofNat n, rest.drop width) else none
      | none => none
    | none => (shortEscape? g.char).map fun c => (c, rest)

/-- The characters of a word in quotes, up to a blank, a break or the closing quote; whether an
escaped break ends the word; and the rest. -/
def quotedWord? (single : Bool) (input : List Glyph) : Option (List Char × Bool × List Glyph) :=
  match input with
  | [] => some ([], false, [])
  | g :: rest =>
    if isBlankOrEnd g.char then some ([], false, g :: rest)
    else if single then
      if g.char = '\x27' then
        if peek rest = '\x27' then
          (quotedWord? single (rest.drop 1)).map fun (text, after) => ('\x27' :: text, after)
        else some ([], false, g :: rest)
      else (quotedWord? single rest).map fun (text, after) => (g.char :: text, after)
    else if g.char = '"' then some ([], false, g :: rest)
    else if g.char = '\\' then
      if isBreak (peek rest) then some ([], true, rest.drop 1)
      else
        match escape? rest with
        | none => none
        | some (c, after) =>
          if _h : after.length ≤ rest.length then
            (quotedWord? single after).map fun (text, after) => (c :: text, after)
          else none
    else (quotedWord? single rest).map fun (text, after) => (g.char :: text, after)
termination_by input.length
decreasing_by all_goals (simp only [List.length_drop, List.length_cons]; omega)

/-- The text of a scalar up to its closing quote, and the rest. The text given is what follows the
opening quote. -/
def quotedScalar? (single : Bool) (input : List Glyph) : Option (List Char × List Glyph) :=
  if isDocumentMark input || peek input == '\x00' then none
  else
    match quotedWord? single input with
    | none => none
    | some (word, escaped, rest) =>
      if peek rest == (if single then '\x27' else '"') then some (word, rest.drop 1)
      else
        let (gap, after) := readGap { broken := escaped } rest
        if _h : after.length < input.length then
          (quotedScalar? single after).map fun (text, rest) => (word ++ gap.text ++ text, rest)
        else none
termination_by input.length

/-- Whether a plain scalar in a flow collection ends before `c`. -/
def isFlowEnd (c : Char) : Bool :=
  c == ',' || c == '[' || c == ']' || c == '\x7b' || c == '\x7d'

/-- The characters of a word without quotes, and the rest. In a flow collection, a colon just before
an indicator is a mistake. -/
def plainWord? (flow : Bool) : List Glyph → Option (List Char × List Glyph)
  | [] => some ([], [])
  | g :: rest =>
    let c := g.char
    let next := peek rest
    if isBlankOrEnd c then some ([], g :: rest)
    else if flow && c == ':' && (isFlowEnd next || next == '?') then none
    else if (c == ':' && isBlankOrEnd next) || (flow && isFlowEnd c) then some ([], g :: rest)
    else (plainWord? flow rest).map fun (text, after) => (c :: text, after)

/-- Whether a tab stands where the indentation of a line should be. -/
def hasLooseTab (indent : Int) (broken : Bool) : List Glyph → Bool
  | [] => false
  | g :: rest =>
    if isBreak g.char then hasLooseTab indent true rest
    else if isBlank g.char then
      (broken && g.column < indent && g.char == '\t') || hasLooseTab indent broken rest
    else false

/-- The text of a plain scalar whose lines are indented by at least `indent`; whether the scalar
ends after a line break; and the rest. -/
def plainScalar? (flow : Bool) (indent : Int) (gap : Gap) (input : List Glyph) :
    Option (List Char × Bool × List Glyph) :=
  if isDocumentMark input || peek input == '#' then some ([], gap.broken, input)
  else
    match plainWord? flow input with
    | none => none
    | some (word, rest) =>
      let before := if word.isEmpty then [] else gap.text ++ word
      let pending := if word.isEmpty then gap else {}
      if !(isBlank (peek rest) || isBreak (peek rest)) then some (before, pending.broken, rest)
      else if hasLooseTab indent pending.broken rest then none
      else
        let (gap, after) := readGap pending rest
        if !flow && (head after).column < indent then some (before, gap.broken, after)
        else if _h : after.length < input.length then
          (plainScalar? flow indent gap after).map fun (text, broken, rest) =>
            (before ++ text, broken, rest)
        else none
termination_by input.length

end ConfigTree.Yaml
