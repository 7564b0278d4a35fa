import ConfigTree.Yaml.Printer

set_option relaxedAutoImplicit false
set_option autoImplicit false

/-!
# Characters with their places

A YAML text is read as a list of characters that know their line and column. All spellings of the
line feed are one character in this list. The list ends with a null character, which no text may
hold, so that looking ahead always finds a character.

## Main definitions

* `ConfigTree.Yaml.Glyph` — a character with its place.
* `ConfigTree.Yaml.glyphs?` — the glyphs of a text without forbidden characters.
* `ConfigTree.Yaml.peek`, `ConfigTree.Yaml.peekAt` — looking ahead.
-/

namespace ConfigTree.Yaml

/-- A character with its place. -/
structure Glyph where
  /-- The character. -/
  char : Char
  /-- The number of lines before it. -/
  line : Nat
  /-- The number of characters before it in its line. -/
  column : Nat
  /-- The number of bytes before it, where a line break counts as one. -/
  offset : Nat

/-- Whether `c` may stand in a YAML text. -/
def isAllowed (c : Char) : Bool :=
  let n := c.toNat
  n == 0x09 || n == 0x0A || n == 0x0D || (0x20 ≤ n && n ≤ 0x7E) || n == 0x85 ||
    (0xA0 ≤ n && n ≤ 0xFFFD) || 0x10000 ≤ n

/-- The text with a line feed for each carriage return, for each pair of the two, and for each next
line character. -/
def unifyBreaks : List Char → List Char
  | '\r' :: '\n' :: rest => '\n' :: unifyBreaks rest
  | '\r' :: rest => '\n' :: unifyBreaks rest
  | '\u0085' :: rest => '\n' :: unifyBreaks rest
  | c :: rest => c :: unifyBreaks rest
  | [] => []

/-- The glyphs of a text from a given place on, and the null at its end. -/
def glyphsFrom (line column offset : Nat) : List Char → List Glyph
  | [] => [⟨'\x00', line, column, offset⟩]
  | c :: rest =>
    ⟨c, line, column, offset⟩ ::
      if isBreak c then glyphsFrom (line + 1) 0 (offset + c.utf8Size) rest
      else glyphsFrom line (column + 1) (offset + c.utf8Size) rest

/-- The glyphs of a text, unless it holds a character that may not stand there. -/
def glyphs? (text : String) : Option (List Glyph) :=
  let text := text.toList
  if text.all isAllowed then some (glyphsFrom 0 0 0 (unifyBreaks text)) else none

/-- The next glyph. -/
def head (input : List Glyph) : Glyph :=
  input.headD ⟨'\x00', 0, 0, 0⟩

/-- The next character. -/
def peek (input : List Glyph) : Char :=
  (head input).char

/-- The character at a distance. -/
def peekAt (distance : Nat) (input : List Glyph) : Char :=
  peek (input.drop distance)

/-- Whether `c` is a blank, a line break or the end. -/
def isBlankOrEnd (c : Char) : Bool :=
  isGap (some c)

/-- Whether `c` is a line break or the end. -/
def isBreakOrEnd (c : Char) : Bool :=
  isBreak c || c == '\x00'

/-- Whether `c` may stand in names of anchors and tags. -/
def isNameChar (c : Char) : Bool :=
  c.isAlphanum || c == '_' || c == '-'

/-- The characters up to the first that fails the test, and the rest. -/
def spanChars (test : Char → Bool) (input : List Glyph) : List Char × List Glyph :=
  ((input.takeWhile fun g => test g.char).map Glyph.char, input.dropWhile fun g => test g.char)

/-- The input after blanks. -/
def skipBlanks (input : List Glyph) : List Glyph :=
  input.dropWhile fun g => isBlank g.char

/-- The input after a comment, up to the end of its line. -/
def skipComment (input : List Glyph) : List Glyph :=
  if peek input == '#' then input.dropWhile fun g => !isBreakOrEnd g.char else input

/-- The input after a line break, if there is one. -/
def skipBreak (input : List Glyph) : List Glyph :=
  if isBreak (peek input) then input.drop 1 else input

/-- Whether a line starts here that consists of three equal characters, which mark the borders of
documents. -/
def isDocumentMark (input : List Glyph) : Bool :=
  (head input).column == 0 && (peek input == '-' || peek input == '.') &&
    peekAt 1 input == peek input && peekAt 2 input == peek input && isBlankOrEnd (peekAt 3 input)

end ConfigTree.Yaml
