set_option relaxedAutoImplicit false
set_option autoImplicit false

/-!
# Binary64 numbers

The numbers of the IEEE 754 binary64 format, as exact data. The nonnegative finite numbers, in
ascending order, are numbered `0`, `1`, `2`, …; the number of a value in that order is its *rank*.
A rank is also the value's bit pattern, and infinity has the rank after the last.

Every finite number is a multiple of the least positive one, `2⁻¹⁰⁷⁴`, so all comparisons and
roundings are done on natural numbers that count those units.

## Main definitions

* `ConfigTree.Binary64` — the numbers, with one value for all kinds of NaN.
* `ConfigTree.Binary64.units` — a rank's value, counted in units of `2⁻¹⁰⁷⁴`.
* `ConfigTree.Binary64.nearestRank` — the rank nearest to a fraction, a half going to the even rank.
* `ConfigTree.Binary64.bits`, `ConfigTree.Binary64.ofBits` — the bit pattern.
-/

namespace ConfigTree

/-- How many nonnegative finite numbers there are; infinity has this rank. -/
abbrev Binary64.ranks : Nat := 0x7FF0000000000000

/-- A binary64 number. -/
inductive Binary64 where
  /-- The value that is not a number. -/
  | nan
  /-- One of the two infinities. -/
  | infinite (negative : Bool)
  /-- A finite number: its sign and the rank of its absolute value. -/
  | finite (negative : Bool) (rank : Fin Binary64.ranks)
  deriving DecidableEq

namespace Binary64

/-- The value of a rank in units of `2⁻¹⁰⁷⁴`. -/
def units (rank : Nat) : Nat :=
  if rank < Nat.pow 2 52 then rank
  else (Nat.pow 2 52 + rank % Nat.pow 2 52) * Nat.pow 2 (rank / Nat.pow 2 52 - 1)

/-- The units in the number one. -/
def one : Nat := Nat.pow 2 1074

/-- The greatest rank whose value is at most `n` units. -/
def rankBelow (n : Nat) : Nat :=
  if n < Nat.pow 2 53 then n else (n.log2 - 52) * Nat.pow 2 52 + n / Nat.pow 2 (n.log2 - 52)

/-- The rank whose value is nearest to `num / den` units. A fraction half way between two ranks goes
to the even one, and one that lies beyond all finite numbers to infinity. -/
def nearestRank (num den : Nat) : Nat :=
  let rank := min (rankBelow (num / den)) (ranks - 1)
  match compare (2 * num) ((units rank + units (rank + 1)) * den) with
  | .lt => rank
  | .gt => rank + 1
  | .eq => if rank % 2 = 0 then rank else rank + 1

/-- The number with the given sign and rank. -/
def ofRank (negative : Bool) (rank : Nat) : Binary64 :=
  if h : rank < ranks then .finite negative ⟨rank, h⟩ else .infinite negative

/-- The number nearest to an integer. -/
def ofInt (n : Int) : Binary64 :=
  ofRank (n < 0) (nearestRank (n.natAbs * one) 1)

/-- The rank nearest to the product of two finite ranks. -/
def rankMul (a b : Nat) : Nat :=
  nearestRank (units a * units b) one

/-- The rank nearest to the quotient of two finite ranks. -/
def rankDiv (a b : Nat) : Nat :=
  nearestRank (units a * one) (units b)

/-- The bit pattern, with the sign as the highest bit. -/
def bits : Binary64 → Nat
  | nan => ranks + Nat.pow 2 51
  | infinite negative => (if negative then Nat.pow 2 63 else 0) + ranks
  | finite negative rank => (if negative then Nat.pow 2 63 else 0) + rank.val

/-- The number with the given bit pattern of 64 bits. -/
def ofBits (pattern : Nat) : Binary64 :=
  let negative := Nat.pow 2 63 ≤ pattern
  let rank := pattern % Nat.pow 2 63
  if rank ≤ ranks then ofRank negative rank else nan

/-- The number with the opposite sign. -/
def neg : Binary64 → Binary64
  | nan => nan
  | infinite negative => infinite !negative
  | finite negative rank => finite (!negative) rank

end Binary64

end ConfigTree
