import ConfigTree.Decimal.Binary64

set_option relaxedAutoImplicit false
set_option autoImplicit false

/-!
# Decimals, and reading and writing numbers

A decimal is a number of digits with a power of ten. Reading one gives the nearest binary64 number.
Writing goes the other way: among the decimals that are read as the given number, the one with the
fewest digits is taken, and of those the nearest to the number.

All written forms of a number use its shortest decimal. They differ in which numbers are written
with an exponent, in the spelling of that exponent and in the text of whole numbers and of the
values that are not finite. These choices are one record, `Style`.

A numeral that is read consists of ASCII digits: an optional sign, digits with an optional point
among or beside them, and an optional exponent. Integers are read exactly; numerals with a point or
an exponent give the nearest binary64 number, which is infinite if the numeral is too large.

## Main definitions

* `ConfigTree.Decimal` — digits and a power of ten.
* `ConfigTree.Decimal.rank` — the rank of the nearest binary64 number.
* `ConfigTree.Decimal.shortest` — the shortest decimal that is read as a given rank.
* `ConfigTree.Decimal.Style` — the choices of one written form.
* `ConfigTree.Decimal.Style.write` — the text of a number in that form.
* `ConfigTree.Decimal.splitSign` — the sign of a numeral and the rest.
* `ConfigTree.Decimal.natOfDigits?` — the value of a word of decimal digits.
* `ConfigTree.Decimal.int?` — the value of an integer with an optional sign.
* `ConfigTree.Decimal.intText` — the written form of an integer.
* `ConfigTree.Decimal.numeral?` — the decimal that a numeral without sign denotes.
* `ConfigTree.Decimal.binary64?` — the binary64 number that a numeral denotes.
* `ConfigTree.Decimal.binary64OrName?` — the same, with the names of the values that are not finite.

## Implementation notes

A candidate of `shortest` is accepted only if `Decimal.rank` takes it back to the given rank, and
the fallback is the exact value, so that the result always reads back.
-/

namespace ConfigTree

/-- The number `digits · 10 ^ exponent`. -/
structure Decimal where
  /-- The digits, as one natural number. -/
  digits : Nat
  /-- The power of ten. -/
  exponent : Int
  deriving DecidableEq

namespace Decimal

/-- The rank of the binary64 number nearest to the decimal. Exponents so large or so small that the
digits cannot matter are answered without forming the power of ten. -/
def rank (d : Decimal) : Nat :=
  if d.digits = 0 then 0
  else if d.exponent > 400 then Binary64.ranks
  else if d.exponent + d.digits.log2 < -400 then 0
  else if d.exponent < 0 then
    Binary64.nearestRank (d.digits * Binary64.one) (Nat.pow 10 d.exponent.natAbs)
  else Binary64.nearestRank (d.digits * Nat.pow 10 d.exponent.natAbs * Binary64.one) 1

/-- The same number with no zero at the end of its digits. -/
def strip (d : Decimal) : Decimal :=
  if d.digits ≠ 0 ∧ d.digits % 10 = 0 then strip ⟨d.digits / 10, d.exponent + 1⟩ else d
termination_by d.digits
decreasing_by omega

/-- Which of two equally near decimals is written. -/
inductive Tie where
  /-- The greater one. -/
  | up
  /-- The one whose last digit is even. -/
  | even

/-- The value of a rank as a fraction, counted in units of `10 ^ exponent`. -/
def onGrid (rank : Nat) (exponent : Int) : Nat × Nat :=
  if exponent < 0 then (Binary64.units rank * Nat.pow 10 exponent.natAbs, Binary64.one)
  else (Binary64.units rank, Binary64.one * Nat.pow 10 exponent.natAbs)

/-- The exponent of the first digit of a rank that is not zero. -/
def leadingExponent (rank : Nat) : Int :=
  let (num, den) := onGrid rank (-340)
  (Nat.toDigits 10 (num / den)).length - 341

/-- The multiple of `10 ^ exponent` that is read as the given rank, the nearer one if both
neighbours of the rank's value are. -/
def neighbour? (tie : Tie) (rank : Nat) (exponent : Int) : Option Decimal :=
  let (num, den) := onGrid rank exponent
  let below : Decimal := ⟨num / den, exponent⟩
  let above : Decimal := ⟨num / den + 1, exponent⟩
  if below.rank = rank then
    if above.rank = rank then
      match compare (2 * (num % den)) den, tie with
      | .lt, _ => some below
      | .gt, _ => some above
      | .eq, .up => some above
      | .eq, .even => some (if below.digits % 2 = 0 then below else above)
    else some below
  else if above.rank = rank then some above
  else none

/-- The value of a rank, with all its digits. -/
def exact (rank : Nat) : Decimal :=
  ⟨Binary64.units rank * Nat.pow 5 1074, -1074⟩

/-- The decimal with the fewest digits that is read as the given rank. -/
def shortest (tie : Tie) (rank : Nat) : Decimal :=
  if rank = 0 then ⟨0, 0⟩
  else
    let lead := leadingExponent rank
    (((List.range 17).findSome? fun more => neighbour? tie rank (lead - Int.ofNat more)).getD
      (exact rank)).strip

/-! ## Written forms -/

/-- The choices of one written form of binary64 numbers. -/
structure Style where
  /-- Which of two equally near decimals is written. -/
  tie : Tie
  /-- Whether a number whose first digit has this exponent is written without an exponent. -/
  isPositional : Int → Bool
  /-- What follows the digits of a whole number that is written without an exponent. -/
  wholeEnd : String
  /-- What stands before an exponent that is not negative. -/
  plusSign : String
  /-- The text of the value that is not a number. -/
  nan : String
  /-- The text of positive infinity. -/
  infinity : String
  /-- The text of negative infinity. -/
  minusInfinity : String

/-- The given number of zeros. -/
def zeros (count : Nat) : List Char :=
  List.replicate count '0'

/-- The digits with a decimal point, and no exponent. -/
def positional (wholeEnd : List Char) (digits : List Char) (exponent : Int) : List Char :=
  let point : Int := digits.length + exponent
  if 0 ≤ exponent then digits ++ zeros exponent.toNat ++ wholeEnd
  else if 0 < point then digits.take point.toNat ++ '.' :: digits.drop point.toNat
  else '0' :: '.' :: zeros (-point).toNat ++ digits

/-- The digits with a point after the first of several, and an exponent. -/
def scientific (plusSign : List Char) (digits : List Char) (exponent : Int) : List Char :=
  let power : Int := exponent + digits.length - 1
  let sign := if power < 0 then ['-'] else plusSign
  let mantissa := match digits with
    | first :: second :: more => first :: '.' :: second :: more
    | digits => digits
  mantissa ++ 'e' :: sign ++ Nat.toDigits 10 power.natAbs

/-- The text of the absolute value with the given rank. -/
def Style.writeRank (style : Style) (rank : Nat) : List Char :=
  let decimal := shortest style.tie rank
  let digits := Nat.toDigits 10 decimal.digits
  if style.isPositional (decimal.exponent + digits.length - 1) then
    positional style.wholeEnd.toList digits decimal.exponent
  else scientific style.plusSign.toList digits decimal.exponent

/-- The text of a number. -/
def Style.write (style : Style) : Binary64 → List Char
  | .nan => style.nan.toList
  | .infinite false => style.infinity.toList
  | .infinite true => style.minusInfinity.toList
  | .finite false rank => style.writeRank rank
  | .finite true rank => '-' :: style.writeRank rank

/-! ## Numerals -/

/-- Whether the numeral has a minus sign, and the numeral without its sign. -/
def splitSign : List Char → Bool × List Char
  | '-' :: rest => (true, rest)
  | '+' :: rest => (false, rest)
  | text => (false, text)

/-- The integer with the given sign and absolute value. -/
def signed (negative : Bool) (n : Nat) : Int :=
  if negative then -n else n

/-- The value of a nonempty word of decimal digits. -/
def natOfDigits? (text : List Char) : Option Nat :=
  if text ≠ [] ∧ text.all Char.isDigit then some (Nat.ofDigitChars 10 text 0) else none

/-- The value of decimal digits with an optional sign. -/
def int? (text : List Char) : Option Int :=
  let (negative, digits) := splitSign text
  (natOfDigits? digits).map (signed negative)

/-- The digits of an integer, after a minus sign if it is negative. -/
def intText (n : Int) : List Char :=
  (if n < 0 then ['-'] else []) ++ Nat.toDigits 10 n.natAbs

/-- The exponent at the end of a numeral; a numeral that ends has exponent zero. -/
def exponent? : List Char → Option Int
  | [] => some 0
  | c :: rest => if c = 'e' ∨ c = 'E' then int? rest else none

/-- The decimal that a numeral without sign denotes. -/
def numeral? (text : List Char) : Option Decimal :=
  let whole := text.takeWhile Char.isDigit
  let (fraction, tail) := match text.dropWhile Char.isDigit with
    | '.' :: rest => (rest.takeWhile Char.isDigit, rest.dropWhile Char.isDigit)
    | rest => ([], rest)
  match natOfDigits? (whole ++ fraction), exponent? tail with
  | some digits, some exponent => some ⟨digits, exponent - fraction.length⟩
  | _, _ => none

/-- The binary64 number that a numeral with an optional sign denotes. -/
def binary64? (text : List Char) : Option Binary64 :=
  let (negative, digits) := splitSign text
  (numeral? digits).map fun decimal => Binary64.ofRank negative decimal.rank

/-- The binary64 number that a numeral denotes; infinity and the value that is not a number are
written by name, in letters of either case. -/
def binary64OrName? (text : List Char) : Option Binary64 :=
  let (negative, word) := splitSign text
  match String.ofList (word.map Char.toLower) with
  | "inf" | "infinity" => some (.infinite negative)
  | "nan" => some .nan
  | _ => binary64? text

end Decimal

end ConfigTree
