import ConfigTree.Decimal.Numeral
import ConfigTree.Value.Basic

set_option relaxedAutoImplicit false
set_option autoImplicit false

/-!
# Printing JSON

A value is printed over several lines, each level indented by two spaces. Sequences and mappings
without contents stay on one line. Numbers that are not finite have no JSON form and are printed as
`null`.

## Main definitions

* `ConfigTree.Json.numberStyle` — how floating-point numbers are printed.
* `ConfigTree.Json.quote` — a text as a JSON string.
* `ConfigTree.Json.print` — the JSON text of a value.
-/

namespace ConfigTree.Json

open Decimal

/-- Numbers have an exponent from `10¹⁶` on and below `10⁻⁵`, and whole numbers a point. -/
def numberStyle : Style where
  tie := .even
  isPositional := fun exponent => -5 ≤ exponent && exponent < 16
  wholeEnd := ".0"
  plusSign := "+"
  nan := "null"
  infinity := "null"
  minusInfinity := "null"

/-- How a character is written in a JSON string. -/
def escapeChar (c : Char) : List Char :=
  match c with
  | '"' => ['\\', '"']
  | '\\' => ['\\', '\\']
  | '\x08' => ['\\', 'b']
  | '\t' => ['\\', 't']
  | '\n' => ['\\', 'n']
  | '\x0c' => ['\\', 'f']
  | '\r' => ['\\', 'r']
  | c =>
    if c.toNat < 0x20 then
      ['\\', 'u', '0', '0', Nat.digitChar (c.toNat / 16), Nat.digitChar (c.toNat % 16)]
    else [c]

/-- A text as a JSON string. -/
def quote (text : String) : List Char :=
  '"' :: text.toList.flatMap escapeChar ++ ['"']

/-- A line end with the indentation of a level. -/
def newline (level : Nat) : List Char :=
  '\n' :: List.replicate (2 * level) ' '

/-- Contents between an opening and a closing character, each on lines of its own one level
below. -/
def enclose (opening closing : Char) (level : Nat) : List (List Char) → List Char
  | [] => [opening, closing]
  | contents =>
    let separator := ',' :: newline (level + 1)
    opening :: newline (level + 1) ++ separator.intercalate contents ++ newline level ++ [closing]

mutual

/-- The JSON text of a value that starts on a line of the given level. -/
def printAt (level : Nat) : Value → List Char
  | .null => "null".toList
  | .bool true => "true".toList
  | .bool false => "false".toList
  | .integer n => intText n.toInt
  | .float x => numberStyle.write x
  | .string text => quote text
  | .sequence items => enclose '[' ']' level (printItems (level + 1) items)
  | .mapping entries => enclose '\x7b' '\x7d' level (printEntries (level + 1) entries)

/-- The JSON texts of the values of a list. -/
def printItems (level : Nat) : List Value → List (List Char)
  | [] => []
  | item :: rest => printAt level item :: printItems level rest

/-- The JSON texts of the entries of a mapping. -/
def printEntries (level : Nat) : List (String × Value) → List (List Char)
  | [] => []
  | (key, value) :: rest =>
    (quote key ++ ':' :: ' ' :: printAt level value) :: printEntries level rest

end

/-- The JSON text of a value. -/
def print (value : Value) : String :=
  String.ofList (printAt 0 value)

end ConfigTree.Json
