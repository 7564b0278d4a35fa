import ConfigTree.Decimal.Numeral
import ConfigTree.Value.Literal

set_option relaxedAutoImplicit false
set_option autoImplicit false

/-!
# YAML scalars and printing YAML

A scalar without quotes may be a null, a truth value, a number or a text. This module says which,
for reading and for deciding when a text has to be quoted. Integers are decimal, or hexadecimal,
octal or binary after `0x`, `0o` or `0b`. A word of digits with a leading zero is a text. An integer
beyond 64 bits has no value here.

Values are printed in block style, with two spaces of indentation for each level. The items of a
sequence in a mapping stand below their key without further indentation. Lines are never folded. A
text is printed in the simplest form in which it reads as the same text: plain, between single
quotes, as a block of lines, or between double quotes with escapes.

## Main definitions

* `ConfigTree.Yaml.Plain` — what a scalar without quotes may be.
* `ConfigTree.Yaml.plain` — what a given scalar is.
* `ConfigTree.Yaml.numberStyle` — how floating-point numbers are printed.
* `ConfigTree.Yaml.Form` — the forms in which a text may be printed.
* `ConfigTree.Yaml.formOf` — the form of a given text.
* `ConfigTree.Yaml.writeText` — the text in its form.
* `ConfigTree.Yaml.print` — the YAML text of a value.

## Implementation notes

Blocks of lines may end in a line end of their own, so the line end between two entries is added
only if it is not there.
-/

namespace ConfigTree.Yaml

section Scalars

open Decimal

/-- Numbers have an exponent from `10¹⁶` on and below `10⁻⁵`, and whole numbers a point. -/
def numberStyle : Style where
  tie := .even
  isPositional := fun exponent => -5 ≤ exponent && exponent < 16
  wholeEnd := ".0"
  plusSign := ""
  nan := ".nan"
  infinity := ".inf"
  minusInfinity := "-.inf"

/-- What a scalar without quotes may be. -/
inductive Plain where
  /-- A null, a truth value or a number. -/
  | value (value : Value)
  /-- A text. -/
  | text
  /-- An integer that no value can hold. -/
  | tooLarge

/-- Whether the scalar is null. -/
def isNull (text : String) : Bool :=
  text ∈ ["null", "Null", "NULL", "~"]

/-- The truth value that the scalar is. -/
def bool? (text : String) : Option Bool :=
  if text ∈ ["true", "True", "TRUE"] then some true
  else if text ∈ ["false", "False", "FALSE"] then some false
  else none

/-- Whether the scalar consists of digits with a leading zero, which makes it a text. -/
def isPadded (text : List Char) : Bool :=
  match (splitSign text).2 with
  | '0' :: c :: rest => (c :: rest).all Char.isDigit
  | _ => false

/-- The value of digits after the mark of a base. -/
def marked? : List Char → Option Nat
  | '0' :: 'x' :: c :: rest => Value.natInBase? 16 (c :: rest)
  | '0' :: 'o' :: c :: rest => Value.natInBase? 8 (c :: rest)
  | '0' :: 'b' :: c :: rest => Value.natInBase? 2 (c :: rest)
  | _ => none

/-- The sign and the absolute value of the integer that the scalar is. -/
def integer? (text : List Char) : Option (Bool × Nat) :=
  let (negative, word) := splitSign text
  match marked? word with
  | some n => some (negative, n)
  | none => if isPadded text then none else (natOfDigits? word).map fun n => (negative, n)

/-- The floating-point number that the scalar is. -/
def float? (text : List Char) : Option Binary64 :=
  let word := match text with
    | '+' :: rest => if (rest.head?.any fun c => c == '+' || c == '-') then [] else rest
    | rest => rest
  match String.ofList word, String.ofList text with
  | ".inf", _ | ".Inf", _ | ".INF", _ => some (.infinite false)
  | _, "-.inf" | _, "-.Inf" | _, "-.INF" => some (.infinite true)
  | _, ".nan" | _, ".NaN" | _, ".NAN" => some .nan
  | _, _ =>
    match binary64? word with
    | some (.finite negative rank) => some (.finite negative rank)
    | _ => none

/-- What a scalar is that is no integer of 128 bits. -/
def floatOrText (text : List Char) : Plain :=
  if isPadded text then .text
  else match float? text with
    | some x => .value (.float x)
    | none => .text

/-- The value of an integer of the given sign and absolute value. A positive one of 64 bits without
a sign is a floating-point number. -/
def integerValue? (negative : Bool) (n : Nat) : Option Value :=
  match int64? (signed negative n) with
  | some m => some (.integer m)
  | none => if !negative ∧ n < Nat.pow 2 64 then some (.float (Binary64.ofInt n)) else none

/-- What an integer of the given sign and absolute value is. One beyond 128 bits may still be a
floating-point number. -/
def integerPlain (text : List Char) (negative : Bool) (n : Nat) : Plain :=
  match integerValue? negative n with
  | some value => .value value
  | none =>
    if n < Nat.pow 2 127 ∨ (negative ∧ n = Nat.pow 2 127) ∨ (!negative ∧ n < Nat.pow 2 128) then
      .tooLarge
    else floatOrText text

/-- What a scalar without quotes is. -/
def plain (text : String) : Plain :=
  if text.isEmpty || isNull text then .value .null
  else
    match bool? text with
    | some b => .value (.bool b)
    | none =>
      match integer? text.toList with
      | some (negative, n) => integerPlain text.toList negative n
      | none => floatOrText text.toList

end Scalars

/-! ## Printing -/

/-- Whether `c` is a line break. -/
def isBreak (c : Char) : Bool :=
  c == '\n' || c == '\r' || c == '\u0085' || c == '\u2028' || c == '\u2029'

/-- Whether `c` is a space or a tab. -/
def isBlank (c : Char) : Bool :=
  c == ' ' || c == '\t'

/-- Whether nothing, a blank or a line break stands at a place. -/
def isGap (c : Option Char) : Bool :=
  c.all fun c => isBlank c || isBreak c || c == '\x00'

/-- Whether `c` may be printed without an escape. -/
def isPrintable (c : Char) : Bool :=
  let n := c.toNat
  c == '\n' || (0x20 ≤ n && n ≤ 0x7E) || (0xA0 ≤ n && n ≤ 0xFFFD && n != 0xFEFF) || 0x10000 ≤ n

/-- Whether `c` cannot stand at the start of a plain text. -/
def isIndicator (c : Char) : Bool :=
  [',', '#', '[', ']', '\x7b', '\x7d', '&', '*', '!', '|', '>', '\x27', '"', '%', '@',
    '\x60'].contains c

/-- Whether a place after the start of a plain text ends it: a colon before a gap, or a number sign
after one. -/
def breaksPlain (before : Char) : List Char → Bool
  | [] => false
  | c :: rest =>
    (c == ':' && isGap rest.head?) || (c == '#' && isGap (some before)) || breaksPlain c rest

/-- Whether a plain text would be read as something else. -/
def hasIndicator (text : List Char) : Bool :=
  text.take 3 == ['-', '-', '-'] || text.take 3 == ['.', '.', '.'] ||
  match text with
  | [] => false
  | c :: rest =>
    isIndicator c || ((c == '?' || c == ':' || c == '-') && isGap rest.head?) || breaksPlain c rest

/-- Whether a character of the first kind stands directly before one of the second. -/
def hasPair (first second : Char → Bool) : List Char → Bool
  | a :: b :: rest => (first a && second b) || hasPair first second (b :: rest)
  | _ => false

/-- The forms in which a text may be printed. -/
inductive Form where
  /-- As it is. -/
  | plain
  /-- Between single quotes. -/
  | singleQuoted
  /-- Between double quotes, with escapes. -/
  | doubleQuoted
  /-- As a block of lines. -/
  | literal
  deriving DecidableEq

/-- Whether the text has a space or a line break at one of its ends. -/
def hasLooseEnd (text : List Char) : Bool :=
  let loose (c : Option Char) := c.any fun c => c == ' ' || isBreak c
  loose text.head? || loose text.getLast?

/-- Whether the text can only be printed with escapes. -/
def needsEscapes (text : List Char) : Bool :=
  !text.all isPrintable || hasPair (· == ' ') isBreak text

/-- Whether the text, if plain, would be read as something other than a text. -/
def isAmbiguous (text : List Char) : Bool :=
  match plain (String.ofList text) with
  | .text => isPadded text
  | _ => true

/-- The form in which a text is printed. A text with line feeds becomes a block if it can. -/
def formOf (text : List Char) : Form :=
  if text.contains '\n' then
    if needsEscapes text || text.getLast? == some ' ' then .doubleQuoted else .literal
  else if needsEscapes text || hasPair isBreak (· == ' ') text then .doubleQuoted
  else if isAmbiguous text || hasLooseEnd text || text.any isBreak || hasIndicator text then
    .singleQuoted
  else .plain

/-- The given number of spaces. -/
def spaces (count : Nat) : List Char :=
  List.replicate count ' '

/-- A text over several lines. Each line that is not empty is indented, except for what continues
the line on which the text starts. -/
def indentLines (indent : Nat) (fresh : Bool) : List Char → List Char
  | [] => []
  | c :: rest =>
    if isBreak c then c :: indentLines indent true rest
    else (if fresh then spaces indent else []) ++ c :: indentLines indent false rest

/-- The marks after the bar of a block: the indentation if the text does not show it, and what
happens to the line end of the last line. -/
def blockMarks (text : List Char) : List Char :=
  (if text.head?.any fun c => c == ' ' || isBreak c then ['2'] else []) ++
  match text.reverse with
  | [] => ['-']
  | last :: before =>
    if !isBreak last then ['-']
    else if before.head?.all isBreak then ['+']
    else []

/-- The digits of `n` in base 16, in capital letters and of the given number. -/
def capitalHex (width n : Nat) : List Char :=
  let digits := (Nat.toDigits 16 n).map Char.toUpper
  List.replicate (width - digits.length) '0' ++ digits

/-- How a character is written between double quotes. -/
def escapeChar (c : Char) : List Char :=
  match c with
  | '\x00' => ['\\', '0']
  | '\x07' => ['\\', 'a']
  | '\x08' => ['\\', 'b']
  | '\t' => ['\\', 't']
  | '\n' => ['\\', 'n']
  | '\x0b' => ['\\', 'v']
  | '\x0c' => ['\\', 'f']
  | '\r' => ['\\', 'r']
  | '\x1b' => ['\\', 'e']
  | '"' => ['\\', '"']
  | '\\' => ['\\', '\\']
  | '\u0085' => ['\\', 'N']
  | '\u2028' => ['\\', 'L']
  | '\u2029' => ['\\', 'P']
  | c =>
    if isPrintable c then [c]
    else
      let n := c.toNat
      if n ≤ 0xFF then '\\' :: 'x' :: capitalHex 2 n
      else if n ≤ 0xFFFF then '\\' :: 'u' :: capitalHex 4 n
      else '\\' :: 'U' :: capitalHex 8 n

/-- A text in its form; further lines of it are indented by `indent`. -/
def writeText (indent : Nat) (text : List Char) : List Char :=
  match formOf text with
  | .plain => text
  | .singleQuoted =>
    let doubled := text.flatMap fun c => if c = '\x27' then ['\x27', '\x27'] else [c]
    let tail := if text.getLast?.any isBreak then spaces indent else []
    '\x27' :: indentLines indent false doubled ++ tail ++ ['\x27']
  | .doubleQuoted => '"' :: text.flatMap escapeChar ++ ['"']
  | .literal => '|' :: blockMarks text ++ '\n' :: indentLines indent true text

/-- Ends a line, unless it is ended. -/
def endLine (text : List Char) : List Char :=
  if text.getLast?.any isBreak then text else text ++ ['\n']

/-- Whether a key is printed on one line with its value: it has one line and at most 128 bytes. -/
def isSimpleKey (key : String) : Bool :=
  !key.toList.any isBreak && key.utf8ByteSize ≤ 128

/-- Texts that start on lines of their own, each indented; the first one stands where it is. -/
def stack (indent : Nat) : List (List Char) → List Char
  | [] => []
  | [text] => text
  | text :: rest => endLine text ++ spaces indent ++ stack indent rest

mutual

/-- The texts of the items of a sequence, each with its dash at column `indent`. -/
def printItems (indent : Nat) : List Value → List (List Char)
  | [] => []
  | item :: rest => ('-' :: ' ' :: printInner (indent + 2) item) :: printItems indent rest

/-- The texts of the entries of a mapping, each with its key at column `indent`. -/
def printEntries (indent : Nat) : List (String × Value) → List (List Char)
  | [] => []
  | (key, value) :: rest =>
    (if isSimpleKey key then writeText (indent + 2) key.toList ++ ':' :: printAfterKey indent value
     else endLine ('?' :: ' ' :: writeText (indent + 2) key.toList) ++ spaces indent ++
      ':' :: ' ' :: printInner (indent + 2) value) :: printEntries indent rest

/-- The text of a value that starts at column `indent` of a line. -/
def printInner (indent : Nat) : Value → List Char
  | .null => "null".toList
  | .bool true => "true".toList
  | .bool false => "false".toList
  | .integer n => Decimal.intText n.toInt
  | .float x => numberStyle.write x
  | .string text => writeText indent text.toList
  | .sequence [] => ['[', ']']
  | .sequence (item :: rest) => stack indent (printItems indent (item :: rest))
  | .mapping [] => ['\x7b', '\x7d']
  | .mapping (entry :: rest) => stack indent (printEntries indent (entry :: rest))

/-- The text of a value after a key at column `indent` and its colon. -/
def printAfterKey (indent : Nat) : Value → List Char
  | .null => " null".toList
  | .bool true => " true".toList
  | .bool false => " false".toList
  | .integer n => ' ' :: Decimal.intText n.toInt
  | .float x => ' ' :: numberStyle.write x
  | .string text => ' ' :: writeText (indent + 2) text.toList
  | .sequence [] => [' ', '[', ']']
  | .sequence (item :: rest) =>
    '\n' :: spaces indent ++ stack indent (printItems indent (item :: rest))
  | .mapping [] => [' ', '\x7b', '\x7d']
  | .mapping (entry :: rest) =>
    '\n' :: spaces (indent + 2) ++ stack (indent + 2) (printEntries (indent + 2) (entry :: rest))

end

/-- The YAML text of a value. -/
def print (value : Value) : String :=
  String.ofList (endLine (match value with
    | .string text => writeText 2 text.toList
    | value => printInner 0 value))

end ConfigTree.Yaml
