set_option relaxedAutoImplicit false
set_option autoImplicit false

/-!
# Control sequences

A text may hold sequences of characters that are not to be seen but to control a terminal: to change
colours, to move the cursor, to set a title. This module takes them out, and the single control
characters as well; only tabs and the usual line ends are kept.

A sequence starts with the escape character. What follows decides how long it is: most sequences end
with a letter, some carry a payload up to a terminator. Two characters cancel any sequence, and an
escape character starts a new one in its midst.

## Main definitions

* `ConfigTree.Text.Control` — the sequence that a character stands in.
* `ConfigTree.Text.Control.after` — the sequence that the next character stands in.
* `ConfigTree.Text.withoutControls` — the text without control sequences.
-/

namespace ConfigTree.Text

/-- The sequence that a character stands in. -/
inductive Control where
  /-- No sequence. -/
  | none
  /-- Directly after the escape character. -/
  | escape
  /-- An escape sequence with further characters before its end. -/
  | escapeMore
  /-- A sequence with parameters, such as a colour. -/
  | parameters
  /-- The start of a message to the device. -/
  | device
  /-- The parameters of a message to the device. -/
  | deviceParameters
  /-- The characters between the parameters of a message to the device and its kind. -/
  | deviceMore
  /-- The payload of a message, up to the octet `9C`. -/
  | payload
  /-- A command to the operating system, up to the bell. -/
  | command
  deriving DecidableEq

/-- Whether the code of `c` is from `first` to `last`. -/
def isFromTo (first last : Nat) (c : Char) : Bool :=
  first ≤ c.toNat && c.toNat ≤ last

/-- Whether the octet `9C` is part of the encoding of `c`. -/
def hasTerminator (c : Char) : Bool :=
  (String.singleton c).toUTF8.data.contains 0x9C

namespace Control

/-- The sequence that an escape character and `c` start. -/
def ofKind (c : Char) : Control :=
  if isFromTo 0x20 0x2F c then escapeMore
  else if c == '[' then parameters
  else if c == ']' then command
  else if c == 'P' then device
  else if c == 'X' || c == '^' || c == '_' then payload
  else if isFromTo 0x30 0x7E c then none
  else escape

/-- The sequence that the character after `c` stands in. -/
def after (control : Control) (c : Char) : Control :=
  if c == '\x18' || c == '\x1a' then none
  else if c == '\x1b' then escape
  else
    match control with
    | none => none
    | escape => ofKind c
    | escapeMore => if isFromTo 0x30 0x7E c then none else escapeMore
    | parameters => if isFromTo 0x40 0x7E c then none else parameters
    | device =>
      if isFromTo 0x20 0x2F c then deviceMore
      else if isFromTo 0x30 0x3F c then deviceParameters
      else if isFromTo 0x40 0x7E c then payload
      else device
    | deviceParameters =>
      if isFromTo 0x20 0x2F c then deviceMore
      else if isFromTo 0x3C 0x7E c then payload
      else deviceParameters
    | deviceMore => if isFromTo 0x30 0x7E c then payload else deviceMore
    | payload => if hasTerminator c then none else payload
    | command => if c == '\x07' then none else command

/-- Whether `c` is shown where it stands. Outside of sequences that is every character but controls.
Tabs and line ends are also shown in the midst of a sequence without a payload. -/
def shows (control : Control) (c : Char) : Bool :=
  let isSpacing := c == '\t' || c == '\n' || c == '\x0c' || c == '\r'
  match control with
  | none => isSpacing || (0x20 ≤ c.toNat && c != '\x7f')
  | escape | escapeMore | parameters => isSpacing
  | _ => false

end Control

/-- The characters that are shown. After a character that is shown, all are until the next control
character, even if a sequence was not at its end; it goes on from there, unless a character beyond
ASCII came in between. -/
def shownFrom (control : Control) (wasShown : Bool) : List Char → List Char
  | [] => []
  | c :: rest =>
    if wasShown && Control.none.shows c then
      c :: shownFrom (if c.toNat < 0x80 then control else .none) true rest
    else if control.shows c then c :: shownFrom (control.after c) true rest
    else shownFrom (control.after c) false rest

/-- The text without control sequences. -/
def withoutControls (text : String) : String :=
  String.ofList (shownFrom .none true text.toList)

end ConfigTree.Text
