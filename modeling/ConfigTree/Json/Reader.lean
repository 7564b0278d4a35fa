import ConfigTree.Value.Literal

set_option relaxedAutoImplicit false
set_option autoImplicit false

/-!
# Reading JSON

A number without point and exponent is an integer if it fits into 64 bits, and a floating-point
number otherwise. Negative zero is a floating-point number. Floating-point numbers are computed from
at most 64 bits of digits, which are rounded, and then scaled by powers of ten, rounding again. This
is fast and may miss the nearest number by a little. A number that is too large is no number.

A JSON text is a series of brackets, braces, commas, colons and scalars, with blanks between them.
This series of tokens is read by a machine with a stack of the sequences and mappings that are open.
Each token either starts, ends or separates something, or delivers a scalar to what is open. If a
mapping has a key twice, the last value is kept at the place of the first.

## Main definitions

* `ConfigTree.Json.absorb` — the digits that fit into 64 bits.
* `ConfigTree.Json.scale?` — a number times a power of ten.
* `ConfigTree.Json.number?` — the value of a JSON number.
* `ConfigTree.Json.Token` — the tokens.
* `ConfigTree.Json.stringBody?` — the text before a closing quote, and what follows it.
* `ConfigTree.Json.tokens?` — the tokens of a text.
* `ConfigTree.Json.State` — what was read and what may follow.
* `ConfigTree.Json.State.next?` — the effect of a token.
* `ConfigTree.Json.read?` — the value that a JSON text denotes.
-/

namespace ConfigTree.Json

open Decimal (splitSign)

/-! ## Numbers -/

/-- The value of the digits up to the first one that would exceed 64 bits, and the digits from that
one on. -/
def absorb (value : Nat) : List Char → Nat × List Char
  | [] => (value, [])
  | c :: rest =>
    let next := value * 10 + (c.toNat - '0'.toNat)
    if next < Nat.pow 2 64 then absorb next rest else (value, c :: rest)

/-- The rank of a power of ten. -/
def powerRank (exponent : Nat) : Nat :=
  Decimal.rank ⟨1, exponent⟩

/-- The rank of a number times a power of ten, by one multiplication or by divisions. A result that
is too large is none. -/
def scale? (rank : Nat) (exponent : Int) : Option Nat :=
  if 0 ≤ exponent then
    if exponent ≤ 308 then
      let scaled := Binary64.rankMul rank (powerRank exponent.natAbs)
      if scaled < Binary64.ranks then some scaled else none
    else if rank = 0 then some 0 else none
  else if -308 ≤ exponent then some (Binary64.rankDiv rank (powerRank exponent.natAbs))
  else if rank = 0 then some 0
  else scale? (Binary64.rankDiv rank (powerRank 308)) (exponent + 308)
termination_by exponent.natAbs
decreasing_by omega

/-- The floating-point number with the given sign, digits and power of ten. -/
def float? (negative : Bool) (digits : Nat) (exponent : Int) : Option Value :=
  (scale? (Binary64.nearestRank (digits * Binary64.one) 1) exponent).map fun rank =>
    .float (Binary64.ofRank negative rank)

/-- The value of a number without point and exponent whose digits fit into 64 bits. -/
def integerValue (negative : Bool) (digits : Nat) : Value :=
  if negative && digits == 0 then .float (Binary64.ofRank true 0)
  else
    let n := Decimal.signed negative digits
    match int64? n with
    | some m => .integer m
    | none => .float (Binary64.ofInt n)

/-- The power of ten that the digits of an exponent denote; none if it exceeds 31 bits. -/
def power? (negative : Bool) (digits : List Char) : Option Int :=
  let n := Nat.ofDigitChars 10 digits 0
  if n < Nat.pow 2 31 then some (Decimal.signed negative n) else none

/-- The digits after a point, and the rest. A text without a point has no such digits. -/
def fraction? : List Char → Option (List Char × List Char)
  | '.' :: rest =>
    match rest.takeWhile Char.isDigit with
    | [] => none
    | digits => some (digits, rest.dropWhile Char.isDigit)
  | rest => some ([], rest)

/-- The value of a JSON number. -/
def number? (text : List Char) : Option Value :=
  let (negative, unsigned) := match text with
    | '-' :: rest => (true, rest)
    | rest => (false, rest)
  let whole := unsigned.takeWhile Char.isDigit
  if whole.isEmpty || (whole.head? == some '0' && 1 < whole.length) then none
  else
    match fraction? (unsigned.dropWhile Char.isDigit) with
    | none => none
    | some (fraction, tail) =>
      let (leading, dropped) := absorb 0 whole
      let (digits, ignored) := absorb leading fraction
      let exponent : Int := dropped.length - (fraction.length - ignored.length)
      match tail with
      | [] =>
        if fraction.isEmpty && dropped.isEmpty then some (integerValue negative digits)
        else float? negative digits exponent
      | c :: rest =>
        let (down, power) := splitSign rest
        if (c = 'e' ∨ c = 'E') ∧ power ≠ [] ∧ power.all Char.isDigit then
          match power? down power with
          | some shift => float? negative digits (exponent + shift)
          | none =>
            if digits ≠ 0 ∧ !down then none else some (.float (Binary64.ofRank negative 0))
        else none

/-! ## Tokens -/

/-- A token of a JSON text. -/
inductive Token where
  /-- The start of a sequence. -/
  | openBracket
  /-- The end of a sequence. -/
  | closeBracket
  /-- The start of a mapping. -/
  | openBrace
  /-- The end of a mapping. -/
  | closeBrace
  /-- The separator of items and of entries. -/
  | comma
  /-- The separator of a key and its value. -/
  | colon
  /-- A string, a number or one of the words. -/
  | scalar (value : Value)

/-- The value of four hexadecimal digits. -/
def hex4? (a b c d : Char) : Option Nat :=
  Value.natInBase? 16 [a, b, c, d]

/-- The character that a backslash and the character `c` stand for. -/
def unescape? (c : Char) : Option Char :=
  match c with
  | '"' => some '"'
  | '\\' => some '\\'
  | '/' => some '/'
  | 'b' => some '\x08'
  | 'f' => some '\x0c'
  | 'n' => some '\n'
  | 'r' => some '\r'
  | 't' => some '\t'
  | _ => none

/-- Puts a character before the text of a string. -/
def consBody (c : Char) (body : Option (List Char × List Char)) : Option (List Char × List Char) :=
  body.map fun (text, rest) => (c :: text, rest)

/-- The text before the closing quote, and what follows that quote. A character beyond the first
plane may be written as a pair of escapes, and half of such a pair is nothing. -/
def stringBody? : List Char → Option (List Char × List Char)
  | [] => none
  | '"' :: rest => some ([], rest)
  | '\\' :: 'u' :: a :: b :: c :: d :: rest =>
    match hex4? a b c d with
    | none => none
    | some n =>
      if 0xD800 ≤ n ∧ n < 0xDC00 then
        match rest with
        | '\\' :: 'u' :: a :: b :: c :: d :: rest =>
          match hex4? a b c d with
          | none => none
          | some m =>
            if 0xDC00 ≤ m ∧ m < 0xE000 then
              consBody (Char.ofNat (0x10000 + (n - 0xD800) * 0x400 + (m - 0xDC00)))
                (stringBody? rest)
            else none
        | _ => none
      else if 0xDC00 ≤ n ∧ n < 0xE000 then none
      else consBody (Char.ofNat n) (stringBody? rest)
  | '\\' :: c :: rest =>
    match unescape? c with
    | some e => consBody e (stringBody? rest)
    | none => none
  | c :: rest => if c.toNat < 0x20 then none else consBody c (stringBody? rest)

/-- Whether `c` may stand in a number. -/
def isNumberChar (c : Char) : Bool :=
  c.isDigit || c == '-' || c == '+' || c == '.' || c == 'e' || c == 'E'

/-- The value of one of the words. -/
def word? (text : List Char) : Option Value :=
  match String.ofList text with
  | "null" => some .null
  | "true" => some (.bool true)
  | "false" => some (.bool false)
  | _ => none

/-- The token at the start of a text that starts with no blank, and what follows it. -/
def token? : List Char → Option (Token × List Char)
  | [] => none
  | '[' :: rest => some (.openBracket, rest)
  | ']' :: rest => some (.closeBracket, rest)
  | '\x7b' :: rest => some (.openBrace, rest)
  | '\x7d' :: rest => some (.closeBrace, rest)
  | ',' :: rest => some (.comma, rest)
  | ':' :: rest => some (.colon, rest)
  | '"' :: rest =>
    (stringBody? rest).map fun (text, rest) => (.scalar (.string (String.ofList text)), rest)
  | c :: rest =>
    let text := c :: rest
    if c.isAlpha then
      (word? (text.takeWhile Char.isAlpha)).map fun value =>
        (.scalar value, text.dropWhile Char.isAlpha)
    else
      (number? (text.takeWhile isNumberChar)).map fun value =>
        (.scalar value, text.dropWhile isNumberChar)

/-- Whether `c` may stand between tokens. -/
def isSpace (c : Char) : Bool :=
  c == ' ' || c == '\t' || c == '\n' || c == '\r'

/-- The tokens of a text. Each of them takes at least one character. -/
def tokens? (text : List Char) : Option (List Token) :=
  match text with
  | [] => some []
  | c :: rest =>
    if isSpace c then tokens? rest
    else
      match token? (c :: rest) with
      | none => none
      | some (token, after) =>
        if _h : after.length ≤ rest.length then (tokens? after).map (token :: ·) else none
termination_by text.length

/-! ## Values -/

/-- The number of sequences and mappings that may be open at once. -/
def nestingLimit : Nat := 127

/-- A sequence or mapping that is open. -/
inductive Open where
  /-- A sequence with the items so far, the last one first. -/
  | items (before : List Value)
  /-- A mapping with the entries so far. -/
  | entries (before : Table Value)
  /-- A mapping with the entries so far and the key of the next entry. -/
  | entry (before : Table Value) (key : String)

/-- What may follow. -/
inductive Want where
  /-- A value. -/
  | value
  /-- A value, or the end of a sequence that has just begun. -/
  | valueOrEnd
  /-- A key. -/
  | key
  /-- A key, or the end of a mapping that has just begun. -/
  | keyOrEnd
  /-- A colon. -/
  | colon
  /-- A comma or the end of what is open. -/
  | separator

/-- What was read and what may follow. -/
inductive State where
  /-- Something is missing: what may follow, and what is open, the innermost first. -/
  | reading (want : Want) (stack : List Open)
  /-- The text is complete. -/
  | done (value : Value)

namespace State

/-- A value is complete and belongs to the innermost of what is open. -/
def deliver (value : Value) : List Open → Option State
  | [] => some (done value)
  | .items before :: outer => some (reading .separator (.items (value :: before) :: outer))
  | .entry before key :: outer =>
    some (reading .separator (.entries (before.put key value) :: outer))
  | .entries _ :: _ => none

/-- Something is opened, unless too much is open. -/
def opened (want : Want) (inner : Open) (stack : List Open) : Option State :=
  if stack.length < nestingLimit then some (reading want (inner :: stack)) else none

/-- The effect of a token where a value may stand. -/
def valueToken? (token : Token) (stack : List Open) : Option State :=
  match token with
  | .openBracket => opened .valueOrEnd (.items []) stack
  | .openBrace => opened .keyOrEnd (.entries []) stack
  | .scalar value => deliver value stack
  | _ => none

/-- The effect of a token where a key may stand. -/
def keyToken? (token : Token) (stack : List Open) : Option State :=
  match token, stack with
  | .scalar (.string key), .entries before :: outer =>
    some (reading .colon (.entry before key :: outer))
  | _, _ => none

/-- The effect of a token. -/
def next? : State → Token → Option State
  | done _, _ => none
  | reading .value stack, token => valueToken? token stack
  | reading .valueOrEnd (.items _ :: outer), .closeBracket => deliver (.sequence []) outer
  | reading .valueOrEnd stack, token => valueToken? token stack
  | reading .key stack, token => keyToken? token stack
  | reading .keyOrEnd (.entries _ :: outer), .closeBrace => deliver (.mapping []) outer
  | reading .keyOrEnd stack, token => keyToken? token stack
  | reading .colon stack, .colon => some (reading .value stack)
  | reading .separator (.items before :: outer), .comma =>
    some (reading .value (.items before :: outer))
  | reading .separator (.items before :: outer), .closeBracket =>
    deliver (.sequence before.reverse) outer
  | reading .separator (.entries before :: outer), .comma =>
    some (reading .key (.entries before :: outer))
  | reading .separator (.entries before :: outer), .closeBrace => deliver (.mapping before) outer
  | reading _ _, _ => none

end State

/-- The value that a JSON text denotes. -/
def read? (text : String) : Option Value :=
  match (tokens? text.toList).bind fun tokens => tokens.foldlM State.next? (.reading .value []) with
  | some (.done value) => some value
  | _ => none

end ConfigTree.Json
