import ConfigTree.Decimal.Binary64
import ConfigTree.Table
import ConfigTree.Text.Basic
import ConfigTree.Text.Lowercase

set_option relaxedAutoImplicit false
set_option autoImplicit false

/-!
# Values

The values of a configuration: null, booleans, integers of 64 bits, binary64 numbers, texts,
sequences and mappings. Options hold values; mappings are also the form in which a whole
configuration is read and exported.

Besides the truth values themselves, the integers one and zero and a small vocabulary of words
stand for true and false.

## Main definitions

* `ConfigTree.Value` — the values.
* `ConfigTree.Mapping` — keys with values, in insertion order.
* `ConfigTree.int64?` — the integer of 64 bits with a given value, if there is one.
* `ConfigTree.Value.typeName` — what a message calls the type of a value.
* `ConfigTree.Value.truthWords`, `ConfigTree.Value.falsehoodWords` — the vocabulary.
* `ConfigTree.Value.toBool?` — the truth value that a value stands for.
-/

namespace ConfigTree

/-- A value of a configuration. -/
inductive Value where
  /-- The absence of a value. -/
  | null
  /-- A truth value. -/
  | bool (b : Bool)
  /-- An integer. -/
  | integer (n : Int64)
  /-- A floating-point number. -/
  | float (x : Binary64)
  /-- A text. -/
  | string (text : String)
  /-- Values in order. -/
  | sequence (items : List Value)
  /-- Keys with values, in insertion order. -/
  | mapping (entries : List (String × Value))

/-- The default value is null. -/
instance : Inhabited Value := ⟨.null⟩

/-- Keys with values, in insertion order. -/
abbrev Mapping := Table Value

/-- The integer of 64 bits with the value `n`, if `n` is in their range. -/
def int64? (n : Int) : Option Int64 :=
  if -Int.pow 2 63 ≤ n ∧ n < Int.pow 2 63 then some (Int64.ofInt n) else none

namespace Value

/-- What messages call the type of a value. -/
def typeName : Value → String
  | null => "null"
  | bool _ => "boolean"
  | integer _ => "integer"
  | float _ => "float"
  | string _ => "string"
  | sequence _ => "sequence"
  | mapping _ => "mapping"

/-- Whether the value is a text. -/
def isString : Value → Bool
  | string _ => true
  | _ => false

/-- The integer that the value is. -/
def asInteger? : Value → Option Int64
  | integer n => some n
  | _ => none

/-- The number that the value is; an integer is rounded to the nearest number. -/
def asFloat? : Value → Option Binary64
  | float x => some x
  | integer n => some (Binary64.ofInt n.toInt)
  | _ => none

/-- The text that the value is. -/
def asString? : Value → Option String
  | string text => some text
  | _ => none

/-- The mapping that the value is. -/
def asMapping? : Value → Option Mapping
  | mapping entries => some entries
  | _ => none

/-! ## Truth values -/

/-- The words for true, in lower case. -/
def truthWords : List String := ["1", "yes", "true", "on"]

/-- The words for false, in lower case. -/
def falsehoodWords : List String := ["0", "no", "false", "off"]

/-- The truth value that a word stands for; blanks around it and its case do not matter. -/
def wordToBool? (text : String) : Option Bool :=
  let word := String.ofList (Text.lowercase (Text.trim text.toList))
  if word ∈ truthWords then some true
  else if word ∈ falsehoodWords then some false
  else none

/-- The truth value that a value stands for. -/
def toBool? : Value → Option Bool
  | bool b => some b
  | integer n => if n = 1 then some true else if n = 0 then some false else none
  | string text => wordToBool? text
  | _ => none

end Value

end ConfigTree
