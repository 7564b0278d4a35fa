import ConfigTree.Decimal.Numeral
import ConfigTree.Value.Basic

set_option relaxedAutoImplicit false
set_option autoImplicit false

/-!
# The texts of values

A value has two texts. One is shown to a user: texts without quotes, numbers without an exponent,
sequences in brackets and mappings in braces.

The other one, the literal text of a value, is the text that inference takes back to the same value.
A text on its own is its own literal text, so that it can be spliced into other texts; inside a
sequence it stands between quotes.

## Main definitions

* `ConfigTree.Value.displayStyle` — how floating-point numbers are displayed.
* `ConfigTree.Value.display` — the text that displays a value.
* `ConfigTree.Value.literalStyle` — how floating-point numbers are written in literals.
* `ConfigTree.Value.literalChars` — the literal of a value, with quotes around texts.
* `ConfigTree.Value.toLiteral` — the literal text of a value.
-/

namespace ConfigTree.Value

open Decimal

/-! ## Displayed values -/

/-- Displayed numbers never have an exponent, a whole number has no point, and of two equally near
decimals the greater one is shown. -/
def displayStyle : Style where
  tie := .up
  isPositional := fun _ => true
  wholeEnd := ""
  plusSign := ""
  nan := "NaN"
  infinity := "inf"
  minusInfinity := "-inf"

mutual

/-- The characters that display a value. -/
def displayChars : Value → List Char
  | null => "null".toList
  | bool true => "true".toList
  | bool false => "false".toList
  | integer n => intText n.toInt
  | float x => displayStyle.write x
  | string text => text.toList
  | sequence items => '[' :: [',', ' '].intercalate (displayItems items) ++ [']']
  | mapping entries => '\x7b' :: [',', ' '].intercalate (displayEntries entries) ++ ['\x7d']

/-- The characters that display each value of a list. -/
def displayItems : List Value → List (List Char)
  | [] => []
  | item :: rest => displayChars item :: displayItems rest

/-- The characters that display each entry of a mapping. -/
def displayEntries : List (String × Value) → List (List Char)
  | [] => []
  | (key, value) :: rest => (key.toList ++ ':' :: ' ' :: displayChars value) :: displayEntries rest

end

/-- The text that displays a value. -/
def display (value : Value) : String :=
  String.ofList (displayChars value)

/-! ## Literal texts -/

/-- A number in a literal always has a point or an exponent; it has an exponent from `10¹⁶` on and
below `10⁻⁴`. -/
def literalStyle : Style where
  tie := .up
  isPositional := fun exponent => -4 ≤ exponent && exponent < 16
  wholeEnd := ".0"
  plusSign := ""
  nan := "NaN"
  infinity := "inf"
  minusInfinity := "-inf"

/-- How a character of a text is written between quotes. -/
def escapeChar (c : Char) : List Char :=
  if c = '\\' ∨ c = '\x27' then ['\\', c] else [c]

/-- The text between quotes, with a backslash before each quote and each backslash. -/
def quotedLiteral (text : List Char) : List Char :=
  '\x27' :: text.flatMap escapeChar ++ ['\x27']

mutual

/-- The literal of a value, with quotes around texts. -/
def literalChars : Value → List Char
  | null => "None".toList
  | bool true => "True".toList
  | bool false => "False".toList
  | integer n => intText n.toInt
  | float x => literalStyle.write x
  | string text => quotedLiteral text.toList
  | sequence items => '[' :: [',', ' '].intercalate (literalItems items) ++ [']']
  | mapping entries => '\x7b' :: [',', ' '].intercalate (literalEntries entries) ++ ['\x7d']

/-- The literals of the values of a list. -/
def literalItems : List Value → List (List Char)
  | [] => []
  | item :: rest => literalChars item :: literalItems rest

/-- The entries of a mapping, each a key between plain quotes and a literal. -/
def literalEntries : List (String × Value) → List (List Char)
  | [] => []
  | (key, value) :: rest =>
    ('\x27' :: key.toList ++ '\x27' :: ':' :: ' ' :: literalChars value) :: literalEntries rest

end

/-- The literal text of a value; a text on its own has no quotes. -/
def toLiteral : Value → String
  | string text => text
  | value => String.ofList (literalChars value)

end ConfigTree.Value
