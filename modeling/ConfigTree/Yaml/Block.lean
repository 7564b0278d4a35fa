import ConfigTree.Yaml.Glyph

set_option relaxedAutoImplicit false
set_option autoImplicit false

/-!
# YAML block scalars

A block scalar is a text of indented lines below a header. In the literal style its line breaks
stay; in the folded style a single break between two lines that start with no blank reads as a
space.

## Main definitions

* `ConfigTree.Yaml.Chomping` — what happens to the breaks after the last line.
* `ConfigTree.Yaml.blockHeader?` — the header of a block scalar.
* `ConfigTree.Yaml.blockScalar?` — the text of a block scalar.
-/

namespace ConfigTree.Yaml

/-- What happens to the breaks after the last line. -/
inductive Chomping where
  /-- None of them stays. -/
  | strip
  /-- The first one stays. -/
  | clip
  /-- All of them stay. -/
  | keep

/-- The chomping that a mark stands for. -/
def chomping? (c : Char) : Option Chomping :=
  if c == '+' then some .keep else if c == '-' then some .strip else none

/-- The chomping and the indentation, zero if it is not given, at the start of a header; and the
rest. -/
def blockMarks? (input : List Glyph) : Option (Chomping × Nat × List Glyph) :=
  let digit (input : List Glyph) : Option (Nat × List Glyph) :=
    let c := peek input
    if c == '0' then none
    else if c.isDigit then some (c.toNat - '0'.toNat, input.drop 1)
    else some (0, input)
  match chomping? (peek input) with
  | some chomping => (digit (input.drop 1)).map fun (indent, rest) => (chomping, indent, rest)
  | none =>
    (digit input).map fun (indent, rest) =>
      match chomping? (peek rest) with
      | some chomping => if indent = 0 then (.clip, 0, rest) else (chomping, indent, rest.drop 1)
      | none => (.clip, indent, rest)

/-- The header of a block scalar and the lines below it. The input is what follows the style. -/
def blockHeader? (input : List Glyph) : Option (Chomping × Nat × List Glyph) :=
  match blockMarks? input with
  | none => none
  | some (chomping, indent, rest) =>
    let rest := skipComment (skipBlanks rest)
    if isBreakOrEnd (peek rest) then some (chomping, indent, skipBreak rest) else none

/-- What a scan over empty lines finds: their breaks, the greatest column seen, and the rest. The
indentation zero stands for any. A tab in the indentation is a mistake. -/
def emptyLines? (indent : Nat) (breaks : List Char) (widest : Nat) :
    List Glyph → Option (List Char × Nat × List Glyph)
  | [] => some (breaks, widest, [])
  | g :: rest =>
    let inside := indent == 0 || g.column < indent
    if inside && g.char == ' ' then emptyLines? indent breaks widest rest
    else if inside && g.char == '\t' then none
    else if isBreak g.char then
      emptyLines? indent (breaks ++ [g.char]) (max widest g.column) rest
    else some (breaks, max widest g.column, g :: rest)

/-- The breaks before a line that is not empty, the indentation of that line and the rest. If the
indentation is not known, the widest of the empty lines and that line decides. -/
def leadingBreaks? (parent : Int) (indent : Nat) (input : List Glyph) :
    Option (List Char × Nat × List Glyph) :=
  (emptyLines? indent [] 0 input).map fun (breaks, widest, rest) =>
    if indent = 0 then (breaks, max (max widest (parent + 1).toNat) 1, rest)
    else (breaks, indent, rest)

/-- The text between two lines: the break at the end of the first and the breaks of empty lines
after it. In the folded style a break between lines that start with no blank is folded. -/
def joint (folded wasBlank isBlank : Bool) (first : Option Char) (more : List Char) : List Char :=
  if folded && first == some '\n' && !wasBlank && !isBlank then
    if more.isEmpty then [' '] else more
  else first.toList ++ more

/-- The text of the lines at the given indentation, the break after the last one, the breaks of the
empty lines that follow, and the rest. The first arguments describe what stands before. -/
def blockLines? (folded : Bool) (indent : Nat) (wasBlank : Bool) (first : Option Char)
    (more : List Char) (input : List Glyph) :
    Option (List Char × Option Char × List Char × List Glyph) :=
  if (head input).column != indent || peek input == '\x00' then some ([], first, more, input)
  else
    let startsBlank := isBlank (peek input)
    let (line, rest) := spanChars (fun c => !isBreakOrEnd c) input
    let ending := if isBreak (peek rest) then some (peek rest) else none
    match emptyLines? indent [] 0 (skipBreak rest) with
    | none => none
    | some (breaks, _, after) =>
      if _h : after.length < input.length then
        (blockLines? folded indent startsBlank ending breaks after).map fun (text, tail) =>
          (joint folded wasBlank startsBlank first more ++ line ++ text, tail)
      else none
termination_by input.length

/-- The text of a block scalar in a collection of the given indentation, and the rest. The text
given is what follows the style. -/
def blockScalar? (folded : Bool) (parent : Int) (input : List Glyph) :
    Option (List Char × List Glyph) :=
  match blockHeader? input with
  | none => none
  | some (chomping, given, rest) =>
    let indent := if given = 0 then 0 else (max parent 0).toNat + given
    match leadingBreaks? parent indent rest with
    | none => none
    | some (breaks, indent, rest) =>
      (blockLines? folded indent false none breaks rest).map fun (text, last, more, rest) =>
        match chomping with
        | .strip => (text, rest)
        | .clip => (text ++ last.toList, rest)
        | .keep => (text ++ last.toList ++ more, rest)

end ConfigTree.Yaml
