set_option relaxedAutoImplicit false
set_option autoImplicit false

/-!
# Characters, lines and pieces of texts

A property of characters that no short rule gives is stored as an ascending list of closed ranges
of code points. Membership walks the list and stops at the first range beyond the code point.

Blank characters are those with the Unicode property `White_Space`; zero-width characters such as
U+200B and U+FEFF are not among them. A line ends at a line feed, and one carriage return just
before that line feed belongs to the line end. A text that is cut at every occurrence of a character
always has at least one piece, and there is one piece more than there are separators.

## Main definitions

* `ConfigTree.Text.Ranges` — an ascending list of closed ranges of code points.
* `ConfigTree.Text.Ranges.has` — whether a character lies in one of the ranges.
* `ConfigTree.Text.isBlank` — the characters that trimming removes.
* `ConfigTree.Text.trim` — a text without the blanks at both of its ends.
* `ConfigTree.Text.lines` — the lines of a text, without their line ends.
* `ConfigTree.Text.pieces` — the pieces of a text between the occurrences of a character.
* `ConfigTree.Text.segments` — the same for a dotted path.
* `ConfigTree.Text.dotted` — the dotted path with the given segments.
-/

namespace ConfigTree.Text

/-! ## Tables of code points -/

/-- An ascending list of closed, pairwise disjoint ranges of code points. -/
abbrev Ranges := List (Nat × Nat)

/-- Whether the code point `n` lies in one of the ranges. -/
def Ranges.hasCode : Ranges → Nat → Bool
  | [], _ => false
  | (first, last) :: rest, n =>
    if n < first then false else if n ≤ last then true else Ranges.hasCode rest n

/-- Whether the character `c` lies in one of the ranges. -/
def Ranges.has (table : Ranges) (c : Char) : Bool :=
  table.hasCode c.toNat

/-! ## Blanks and lines -/

/-- The code points with the property `White_Space`. -/
def blankTable : Ranges := [
    (0x09, 0x0D), (0x20, 0x20), (0x85, 0x85), (0xA0, 0xA0), (0x1680, 0x1680), (0x2000, 0x200A),
    (0x2028, 0x2029), (0x202F, 0x202F), (0x205F, 0x205F), (0x3000, 0x3000)]

/-- Whether `c` is a blank character. -/
def isBlank (c : Char) : Bool :=
  blankTable.has c

/-- The text without its leading blanks. -/
def trimLeft (text : List Char) : List Char :=
  text.dropWhile isBlank

/-- The text without its trailing blanks. -/
def trimRight (text : List Char) : List Char :=
  (text.reverse.dropWhile isBlank).reverse

/-- The text without the blanks at both of its ends. -/
def trim (text : List Char) : List Char :=
  trimRight (trimLeft text)

/-- The line without one carriage return at its end. -/
def dropReturn (line : List Char) : List Char :=
  if line.getLast? = some '\r' then line.dropLast else line

/-- The lines of a text whose current line began with `seen` (reversed). A line feed at the very
end starts no further line. -/
def linesFrom (seen : List Char) : List Char → List (List Char)
  | [] => if seen.isEmpty then [] else [seen.reverse]
  | '\n' :: rest => dropReturn seen.reverse :: linesFrom [] rest
  | c :: rest => linesFrom (c :: seen) rest

/-- The lines of a text, without their line ends. -/
def lines (text : List Char) : List (List Char) :=
  linesFrom [] text

/-! ## Pieces -/

/-- The pieces of the text between the occurrences of `separator`. -/
def pieces (separator : Char) : List Char → List (List Char)
  | [] => [[]]
  | c :: rest =>
    if c = separator then [] :: pieces separator rest
    else match pieces separator rest with
      | [] => [[c]]
      | piece :: more => (c :: piece) :: more

/-- The segments of a dotted path; the empty path has one empty segment. -/
def segments (path : String) : List String :=
  (pieces '.' path.toList).map String.ofList

/-- The texts joined by `separator`. -/
def joined (separator : String) : List String → String
  | [] => ""
  | [text] => text
  | text :: rest => text ++ separator ++ joined separator rest

/-- The dotted path with the given segments. -/
def dotted (segments : List String) : String :=
  joined "." segments

end ConfigTree.Text
