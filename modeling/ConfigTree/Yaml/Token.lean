import ConfigTree.Yaml.Block
import ConfigTree.Yaml.Quoted
import ConfigTree.Yaml.Tag

set_option relaxedAutoImplicit false
set_option autoImplicit false

/-!
# YAML tokens

A YAML text is a series of scalars, indicators and properties of nodes. The indentation of lines
gives rise to further tokens, which mark the start and the end of block collections.

What is a key is known only when its colon comes. The scanner remembers where a key may have begun;
when the colon comes, the tokens for the key are put in at that place. A key that is not quoted or
bracketed off by an explicit mark has to be on one line with its colon and at most 1024 bytes before
it.

## Main definitions

* `ConfigTree.Yaml.Token` — the tokens.
* `ConfigTree.Yaml.Scanner` — what is left to scan and what was found.
* `ConfigTree.Yaml.Scanner.token?` — the scanner after one more token.
* `ConfigTree.Yaml.tokens?` — the tokens of a text.
-/

namespace ConfigTree.Yaml

/-- A token of a YAML text. -/
inductive Token where
  /-- A declaration before a document. -/
  | directive (directive : Directive)
  /-- The start of a document. -/
  | documentStart
  /-- The end of a document. -/
  | documentEnd
  /-- The start of a sequence in block style. -/
  | sequenceStart
  /-- The start of a mapping in block style. -/
  | mappingStart
  /-- The end of a collection in block style. -/
  | blockEnd
  /-- The bracket that starts a sequence in flow style. -/
  | flowSequenceStart
  /-- The bracket that ends a sequence in flow style. -/
  | flowSequenceEnd
  /-- The brace that starts a mapping in flow style. -/
  | flowMappingStart
  /-- The brace that ends a mapping in flow style. -/
  | flowMappingEnd
  /-- The dash before an item. -/
  | blockEntry
  /-- The comma in flow style. -/
  | flowEntry
  /-- The start of a key. -/
  | key
  /-- The colon before a value. -/
  | value
  /-- A reference to an anchor. -/
  | alias (name : String)
  /-- The name of the next node. -/
  | anchor (name : String)
  /-- The tag of the next node. -/
  | tag (handle : String) (suffix : Octets)
  /-- A scalar, and whether it is written without quotes on a line of its own or not. -/
  | scalar (isPlain : Bool) (text : String)
deriving DecidableEq

/-- A place where a key may have begun. -/
structure KeyStart where
  /-- Whether nothing else may stand at this place. -/
  required : Bool
  /-- The number of tokens before the key. -/
  position : Nat
  /-- The first glyph of the key. -/
  glyph : Glyph

/-- What is left to scan and what was found. -/
structure Scanner where
  /-- The rest of the text. -/
  input : List Glyph
  /-- The tokens that were found. -/
  tokens : Array Token
  /-- The column of the innermost block collection, or -1. -/
  indent : Int
  /-- The columns of the block collections around it. -/
  outerIndents : List Int
  /-- Where a key may have begun in the innermost flow collection. -/
  keyStart : Option KeyStart
  /-- The same for the flow collections around it and for the block they stand in. -/
  outerStarts : List (Option KeyStart)
  /-- Whether a key may begin here. -/
  keyAllowed : Bool

namespace Scanner

/-- The scanner at the start of a text. -/
def start (input : List Glyph) : Scanner :=
  ⟨input, #[], -1, [], none, [], true⟩

/-- Whether the scanner is inside of a flow collection. -/
def inFlow (s : Scanner) : Bool :=
  !s.outerStarts.isEmpty

/-- The column of the next glyph. -/
def column (s : Scanner) : Int :=
  (head s.input).column

/-- The scanner with one more token at the end. -/
def push (s : Scanner) (token : Token) : Scanner :=
  { s with tokens := s.tokens.push token }

/-- The scanner without the next glyphs. -/
def skip (s : Scanner) (count : Nat) : Scanner :=
  { s with input := s.input.drop count }

/-- The scanner with a new permission for keys. -/
def allowKey (s : Scanner) (allowed : Bool) : Scanner :=
  { s with keyAllowed := allowed }

/-- Blanks, comments and line ends are skipped, and so is a byte order mark at the start of a line,
which moves what follows one column to the right. In block style a new line allows a key. A tab is a
blank only where no key is allowed. -/
def skipSpace (flow : Bool) (allowed comment : Bool) : List Glyph → Bool × List Glyph
  | [] => (allowed, [])
  | g :: rest =>
    let c := g.char
    if comment && !isBreakOrEnd c then skipSpace flow allowed true rest
    else if c == '\ufeff' && g.column == 0 then skipSpace flow allowed false rest
    else if c == ' ' || (c == '\t' && (flow || !allowed)) then skipSpace flow allowed false rest
    else if c == '#' then skipSpace flow allowed true rest
    else if isBreak c then skipSpace flow (allowed || !flow) false rest
    else (allowed, g :: rest)

/-- The place where a key may have begun, unless it is too far back. -/
def freshen? (now : Glyph) (keyStart : Option KeyStart) : Option (Option KeyStart) :=
  match keyStart with
  | none => some none
  | some key =>
    if key.glyph.line < now.line ∨ key.glyph.offset + 1024 < now.offset then
      if key.required then none else some none
    else some (some key)

/-- The scanner without the places for keys that are too far back. -/
def dropStale? (s : Scanner) : Option Scanner := do
  let keyStart ← freshen? (head s.input) s.keyStart
  let outerStarts ← s.outerStarts.mapM (freshen? (head s.input))
  return { s with keyStart := keyStart, outerStarts := outerStarts }

/-- The scanner without the place where a key may have begun. -/
def dropKey? (s : Scanner) : Option Scanner :=
  if s.keyStart.any KeyStart.required then none else some { s with keyStart := none }

/-- The scanner with the next glyph as the place where a key may begin, if one may. -/
def markKey? (s : Scanner) : Option Scanner :=
  if s.keyAllowed then
    (dropKey? s).map fun s =>
      { s with
        keyStart := some ⟨!s.inFlow && s.indent == s.column, s.tokens.size, head s.input⟩ }
  else some s

/-- Ends the block collections that are indented further than the column. -/
def unrollFrom (column : Int) (tokens : Array Token) (indent : Int) :
    List Int → Array Token × Int × List Int
  | [] => (tokens, indent, [])
  | outer :: rest =>
    if column < indent then unrollFrom column (tokens.push .blockEnd) outer rest
    else (tokens, indent, outer :: rest)

/-- Ends the block collections that are indented further than the column. -/
def unroll (s : Scanner) (column : Int) : Scanner :=
  if s.inFlow then s
  else
    let (tokens, indent, outer) := unrollFrom column s.tokens s.indent s.outerIndents
    { s with tokens := tokens, indent := indent, outerIndents := outer }

/-- Starts a block collection at the column, unless one has started there. Its token is put in at
the given position. -/
def roll (s : Scanner) (column : Int) (position : Nat) (token : Token) : Scanner :=
  if !s.inFlow ∧ s.indent < column then
    { s with
      tokens := s.tokens.insertIdxIfInBounds position token
      indent := column
      outerIndents := s.indent :: s.outerIndents }
  else s

/-- The scanner after something that stands on the outermost level. -/
def leaveBlocks? (s : Scanner) : Option Scanner :=
  (dropKey? (s.unroll (-1))).map (·.allowKey false)

/-- A directive. -/
def scanDirective? (s : Scanner) : Option Scanner := do
  let s ← s.leaveBlocks?
  let (directive, rest) ← directive? (s.input.drop 1)
  return { s with input := rest }.push (.directive directive)

/-- The mark at the border of a document. -/
def scanMark? (s : Scanner) (token : Token) : Option Scanner :=
  s.leaveBlocks?.map fun s => (s.skip 3).push token

/-- The start of a flow collection. -/
def scanFlowStart? (s : Scanner) (token : Token) : Option Scanner :=
  s.markKey?.map fun s =>
    (({ s with keyStart := none, outerStarts := s.keyStart :: s.outerStarts }.allowKey true).skip
      1).push token

/-- The end of a flow collection. -/
def scanFlowEnd? (s : Scanner) (token : Token) : Option Scanner :=
  s.dropKey?.map fun s =>
    let s := match s.outerStarts with
      | [] => s
      | keyStart :: rest => { s with keyStart := keyStart, outerStarts := rest }
    ((s.allowKey false).skip 1).push token

/-- The comma in flow style. -/
def scanFlowEntry? (s : Scanner) : Option Scanner :=
  s.dropKey?.map fun s => ((s.allowKey true).skip 1).push .flowEntry

/-- The dash before an item. -/
def scanBlockEntry? (s : Scanner) : Option Scanner :=
  if !s.inFlow && !s.keyAllowed then none
  else
    (s.roll s.column s.tokens.size .sequenceStart).dropKey?.map fun s =>
      ((s.allowKey true).skip 1).push .blockEntry

/-- The mark before an explicit key. -/
def scanKey? (s : Scanner) : Option Scanner :=
  if !s.inFlow && !s.keyAllowed then none
  else
    (s.roll s.column s.tokens.size .mappingStart).dropKey?.map fun s =>
      ((s.allowKey !s.inFlow).skip 1).push .key

/-- The colon before a value. If a key may have begun, it has. -/
def scanValue? (s : Scanner) : Option Scanner :=
  match s.keyStart with
  | some key =>
    let s := { s with
      tokens := s.tokens.insertIdxIfInBounds key.position .key
      keyStart := none
      keyAllowed := false }
    some (((s.roll key.glyph.column key.position .mappingStart).skip 1).push .value)
  | none =>
    if !s.inFlow && !s.keyAllowed then none
    else
      some ((((s.roll s.column s.tokens.size .mappingStart).allowKey !s.inFlow).skip 1).push .value)

/-- A token that belongs to a node, and so may begin a key. -/
def scanNode? (s : Scanner) (read : List Glyph → Option (Token × List Glyph)) : Option Scanner := do
  let s ← s.markKey?
  let (token, rest) ← read s.input
  return ({ s with input := rest }.allowKey false).push token

/-- A block scalar. -/
def scanBlock? (s : Scanner) (folded : Bool) : Option Scanner := do
  let s ← s.dropKey?
  let (text, rest) ← blockScalar? folded s.indent (s.input.drop 1)
  return ({ s with input := rest }.allowKey true).push (.scalar false (String.ofList text))

/-- A quoted scalar. -/
def scanQuoted? (s : Scanner) (single : Bool) : Option Scanner :=
  s.scanNode? fun input =>
    (quotedScalar? single (input.drop 1)).map fun (text, rest) =>
      (.scalar false (String.ofList text), rest)

/-- A plain scalar. If it ends after a line break, a key may follow. -/
def scanPlain? (s : Scanner) : Option Scanner := do
  let s ← s.markKey?
  let (text, broken, rest) ← plainScalar? s.inFlow (s.indent + 1) {} s.input
  return ({ s with input := rest }.allowKey broken).push (.scalar true (String.ofList text))

/-- Whether a plain scalar may start here. -/
def startsPlain (flow : Bool) (c next : Char) : Bool :=
  (!isBlankOrEnd c && !isIndicator c && c != '-' && c != '?' && c != ':') ||
    (c == '-' && !isBlank next) || (!flow && (c == '?' || c == ':') && !isBlankOrEnd next)

/-- The scanner after the token at the start of its input. -/
def token? (s : Scanner) : Option Scanner :=
  let c := peek s.input
  let next := peekAt 1 s.input
  if c == '%' && s.column == 0 then s.scanDirective?
  else if isDocumentMark s.input then
    s.scanMark? (if c == '-' then .documentStart else .documentEnd)
  else if c == '[' then s.scanFlowStart? .flowSequenceStart
  else if c == '\x7b' then s.scanFlowStart? .flowMappingStart
  else if c == ']' then s.scanFlowEnd? .flowSequenceEnd
  else if c == '\x7d' then s.scanFlowEnd? .flowMappingEnd
  else if c == ',' then s.scanFlowEntry?
  else if c == '-' && isBlankOrEnd next then s.scanBlockEntry?
  else if c == '?' && (s.inFlow || isBlankOrEnd next) then s.scanKey?
  else if c == ':' && (s.inFlow || isBlankOrEnd next) then s.scanValue?
  else if c == '*' then
    s.scanNode? fun input =>
      (anchorName? (input.drop 1)).map fun (name, rest) => (.alias name, rest)
  else if c == '&' then
    s.scanNode? fun input =>
      (anchorName? (input.drop 1)).map fun (name, rest) => (.anchor name, rest)
  else if c == '!' then
    s.scanNode? fun input =>
      (tag? s.inFlow input).map fun ((handle, suffix), rest) => (.tag handle suffix, rest)
  else if c == '|' && !s.inFlow then s.scanBlock? false
  else if c == '>' && !s.inFlow then s.scanBlock? true
  else if c == '\x27' then s.scanQuoted? true
  else if c == '"' then s.scanQuoted? false
  else if startsPlain s.inFlow c next then s.scanPlain?
  else none

/-- The scanner at the next token, after what stands before it. -/
def advance? (s : Scanner) : Option Scanner :=
  let (allowed, rest) := skipSpace s.inFlow s.keyAllowed false s.input
  (dropStale? { s with input := rest, keyAllowed := allowed }).map fun s => unroll s s.column

/-- All tokens, from those that were found on. Each step takes at least one character. -/
def all? (s : Scanner) : Option (List Token) :=
  match s.advance? with
  | none => none
  | some here =>
    if peek here.input == '\x00' then
      (dropKey? (here.unroll (-1))).map fun s => s.tokens.toList
    else
      match here.token? with
      | none => none
      | some after =>
        if _h : after.input.length < s.input.length then after.all? else none
termination_by s.input.length

end Scanner

/-- The tokens of a text. -/
def tokens? (text : String) : Option (List Token) :=
  (glyphs? text).bind fun input => (Scanner.start input).all?

end ConfigTree.Yaml
