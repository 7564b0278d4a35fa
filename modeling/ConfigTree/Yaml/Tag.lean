import ConfigTree.Value.Literal
import ConfigTree.Yaml.Glyph

set_option relaxedAutoImplicit false
set_option autoImplicit false

/-!
# YAML names, tags and directives

Anchors and aliases have names. A tag has a handle, which stands for a prefix, and a suffix.
Directives before a document declare its version and its handles.

Escapes put any octets into a tag, also such that are not the encoding of a text. So a tag is a list
of octets. A null octet ends it, and ends a prefix in the same way.

## Main definitions

* `ConfigTree.Yaml.anchorName?` — the name of an anchor or alias.
* `ConfigTree.Yaml.Octets` — the octets of a tag or of a part of it.
* `ConfigTree.Yaml.tag?` — the handle and the suffix of a tag.
* `ConfigTree.Yaml.Directive` — a declaration before a document.
* `ConfigTree.Yaml.directive?` — the directive on a line.
-/

namespace ConfigTree.Yaml

/-- The name of an anchor or alias, which a gap or one of a few indicators ends, and the rest. -/
def anchorName? (input : List Glyph) : Option (String × List Glyph) :=
  let (name, rest) := spanChars isNameChar input
  let c := peek rest
  if !name.isEmpty &&
      (isBlankOrEnd c || ['?', ':', ',', ']', '\x7d', '%', '@', '\x60'].contains c) then
    some (String.ofList name, rest)
  else none

/-- The octets of a tag or of a part of it. -/
abbrev Octets := List UInt8

/-- The octets of a text. -/
def octetsOf (text : String) : Octets :=
  text.toUTF8.data.toList

/-- The octets before the first null octet. -/
def untilNull (octets : Octets) : Octets :=
  octets.takeWhile fun octet => octet != 0

/-- A handle: an exclamation mark, and possibly a name and a second mark. A directive needs the
second mark after a name. -/
def tagHandle? (directive : Bool) (input : List Glyph) : Option (List Char × List Glyph) :=
  if peek input != '!' then none
  else
    let (name, rest) := spanChars isNameChar (input.drop 1)
    if peek rest == '!' then some ('!' :: name ++ ['!'], rest.drop 1)
    else if directive && !name.isEmpty then none
    else some ('!' :: name, rest)

/-- Whether `c` may stand in a tag; some characters may stand only in a tag given in full. -/
def isTagChar (verbatim : Bool) (c : Char) : Bool :=
  isNameChar c ||
    [';', '/', '?', ':', '@', '&', '=', '+', '$', '.', '!', '~', '*', '\x27', '(',
      ')'].contains c ||
    (verbatim && [',', '[', ']'].contains c)

/-- The octets that are written as escapes at the start of the input, as many as one character
needs, and the rest. -/
def escapedOctets? (count : Nat) (input : List Glyph) : Option (Octets × List Glyph) :=
  match count, input with
  | 0, rest => some ([], rest)
  | count + 1, percent :: a :: b :: rest =>
    if percent.char != '%' then none
    else
      match Value.natInBase? 16 [a.char, b.char], escapedOctets? count rest with
      | some n, some (octets, rest) => some (n.toUInt8 :: octets, rest)
      | _, _ => none
  | _ + 1, _ => none

/-- How many octets belong together if the first of them is given. -/
def octetCount? (first : UInt8) : Option Nat :=
  if first < 0x80 then some 1
  else if 0xC0 ≤ first && first < 0xE0 then some 2
  else if 0xE0 ≤ first && first < 0xF0 then some 3
  else if 0xF0 ≤ first && first < 0xF8 then some 4
  else none

/-- Whether an octet may follow the first one. -/
def isTrailing (octet : UInt8) : Bool :=
  0x80 ≤ octet && octet < 0xC0

/-- The octets of one character that are written as escapes, and the rest. Only their number and
whether each of them may trail is looked at; they need not encode a character that exists. -/
def escapedChar? (input : List Glyph) : Option (Octets × List Glyph) := do
  let (first, _) ← escapedOctets? 1 input
  let count ← first.head?.bind octetCount?
  let (octets, rest) ← escapedOctets? count input
  if (octets.drop 1).all isTrailing then some (octets, rest) else none

/-- The octets of a tag with its escapes undone, and the rest. -/
def tagOctets? (verbatim : Bool) (input : List Glyph) : Option (Octets × List Glyph) :=
  match input with
  | [] => some ([], [])
  | g :: rest =>
    if g.char = '%' then
      match escapedChar? (g :: rest) with
      | none => none
      | some (octets, after) =>
        if _h : after.length ≤ rest.length then
          (tagOctets? verbatim after).map fun (more, after) => (octets ++ more, after)
        else none
    else if isTagChar verbatim g.char then
      (tagOctets? verbatim rest).map fun (more, after) => (g.char.toNat.toUInt8 :: more, after)
    else some ([], g :: rest)
termination_by input.length

/-- The handle and the suffix of a tag, and the rest. A tag in full has an empty handle, and so has
the tag that is only an exclamation mark. -/
def tag? (flow : Bool) (input : List Glyph) : Option ((String × Octets) × List Glyph) := do
  let (tag, rest) ←
    if peekAt 1 input == '<' then do
      let (suffix, rest) ← tagOctets? true (input.drop 2)
      if !suffix.isEmpty && peek rest == '>' then some (("", untilNull suffix), rest.drop 1)
      else none
    else do
      let (handle, rest) ← tagHandle? false input
      if 1 < handle.length && handle.getLast? == some '!' then
        let (suffix, rest) ← tagOctets? false rest
        if suffix.isEmpty then none else some ((String.ofList handle, untilNull suffix), rest)
      else
        let (more, rest) ← tagOctets? false rest
        let suffix := octetsOf (String.ofList (handle.drop 1)) ++ untilNull more
        some ((if suffix.isEmpty then ("", octetsOf "!") else ("!", suffix)), rest)
  if isBlankOrEnd (peek rest) || (flow && peek rest == ',') then some (tag, rest) else none

/-- A declaration before a document. -/
inductive Directive where
  /-- The version of the document. -/
  | version (major minor : Nat)
  /-- The prefix that a handle stands for. -/
  | handle (name : String) (replacement : Octets)
deriving DecidableEq

/-- A number of at most nine digits, and the rest. -/
def versionNumber? (input : List Glyph) : Option (Nat × List Glyph) :=
  let (digits, rest) := spanChars Char.isDigit input
  if 9 < digits.length then none
  else (Decimal.natOfDigits? digits).map fun n => (n, rest)

/-- The version in a directive, and the rest. -/
def versionDirective? (input : List Glyph) : Option (Directive × List Glyph) := do
  let (major, rest) ← versionNumber? (skipBlanks input)
  if peek rest != '.' then none
  let (minor, rest) ← versionNumber? (rest.drop 1)
  return (.version major minor, rest)

/-- The handle in a directive with its prefix, and the rest. -/
def handleDirective? (input : List Glyph) : Option (Directive × List Glyph) := do
  let (handle, rest) ← tagHandle? true (skipBlanks input)
  if !isBlank (peek rest) then none
  let (replacement, rest) ← tagOctets? true (skipBlanks rest)
  if replacement.isEmpty || !isBlankOrEnd (peek rest) then none
  return (.handle (String.ofList handle) (untilNull replacement), rest)

/-- The directive on a line, and the rest. The text given is what follows the percent sign. -/
def directive? (input : List Glyph) : Option (Directive × List Glyph) := do
  let (name, rest) := spanChars isNameChar input
  if !isBlankOrEnd (peek rest) then none
  let (directive, rest) ← match String.ofList name with
    | "YAML" => versionDirective? rest
    | "TAG" => handleDirective? rest
    | _ => none
  let rest := skipComment (skipBlanks rest)
  if isBreakOrEnd (peek rest) then some (directive, skipBreak rest) else none

end ConfigTree.Yaml
