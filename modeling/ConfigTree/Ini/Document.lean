import ConfigTree.Error
import ConfigTree.Value.Basic

set_option relaxedAutoImplicit false
set_option autoImplicit false

/-!
# INI documents

Blank lines and comments mean nothing, wherever they stand. Of any other line, three things matter:
its number, whether it is indented, and its text without the blanks at both ends.

A header in brackets opens a block, and each line `key = value` below it is an option of the block;
a colon may stand for the equals sign. An indented line continues the value of the option above it
on a line of its own.

A header names a section and possibly a subsection, separated by `@`. Empty names do not count, so
any number of separators may stand between, before and after the names. A document has sections,
each with subsections of options. Blocks are placed into it by their headers, in the order of the
source; two blocks may not have the same place.

All texts stay as they are written: values are not typed and keys are not normalized.

## Main definitions

* `ConfigTree.Ini.Fault` — what may be wrong with a line or a header.
* `ConfigTree.Ini.Fault.toError` — the error that reports a fault.
* `ConfigTree.Ini.Failure` — a fault with the line it was found at.
* `ConfigTree.Ini.Line` — a line that means something.
* `ConfigTree.Ini.linesOf` — the lines of a text that mean something.
* `ConfigTree.Ini.Block` — a header with the options below it.
* `ConfigTree.Ini.headerOf?` — the header that a line holds.
* `ConfigTree.Ini.scanLine` — what a line adds to the blocks before it.
* `ConfigTree.Ini.scan` — the blocks of some lines.
* `ConfigTree.Ini.splitHeader` — the names in a header.
* `ConfigTree.Ini.defaultSubsection` — the subsection of a header that names none.
* `ConfigTree.Ini.Document` — sections with subsections of options.
* `ConfigTree.Ini.Document.ofBlocks` — the document that blocks make up.
* `ConfigTree.Ini.parse` — the mapping that a text denotes.

## Implementation notes

While lines are scanned, the newest block stands first and so does the newest option of each block:
these are the ones that the next line may continue.
-/

namespace ConfigTree.Ini

open Text (isBlank quoted trim)

/-! ## Faults -/

/-- What may be wrong with a line or a header. -/
inductive Fault where
  /-- A header has nothing between its brackets. -/
  | emptyHeader
  /-- The same header stands twice, or two headers name the same section without a subsection. -/
  | repeatedSection (header : String)
  /-- Two headers name the same subsection. -/
  | repeatedSubsection (sectionName subsectionName : String)
  /-- A header names nothing. -/
  | invalidHeader (header : String)
  /-- A header has more than two names. -/
  | deepHeader (header : String)
  /-- A line stands before all headers. -/
  | noHeader (line : String)
  /-- A line has no delimiter. -/
  | noDelimiter (line : String)
  /-- A line has no key before its delimiter. -/
  | noKey (line : String)
  /-- A key stands twice below one header. -/
  | repeatedKey (header key existing : String)
  deriving DecidableEq

/-- The error that reports a fault, without its place in the source. -/
def Fault.toError : Fault → Error
  | .emptyHeader => .parse "Empty section header"
  | .repeatedSection header => .duplicateSection header
  | .repeatedSubsection sectionName subsectionName =>
    .duplicateSubsection sectionName subsectionName
  | .invalidHeader header => .parse ("Invalid section header [" ++ header ++ "]")
  | .deepHeader header => .maxLevelExceeded header maxLevel
  | .noHeader line =>
    (Error.parse ("Missing section header before " ++ quoted line)).withHelp
      "Start the file with a header such as [section] or [section@subsection]"
  | .noDelimiter line => .parse ("Expected 'key = value', got " ++ quoted line)
  | .noKey line => .parse ("Missing option name in " ++ quoted line)
  | .repeatedKey header key existing =>
    .duplicateKey .options (header ++ "." ++ key) (quoted existing)

/-- A fault with the number of the line it was found at. -/
structure Failure where
  /-- The number of the line. -/
  line : Nat
  /-- What is wrong there. -/
  fault : Fault
  deriving DecidableEq

/-- The error that reports a failure in the source of the given name. -/
def Failure.toError (source : String) (failure : Failure) : Error :=
  failure.fault.toError.withLocation ⟨source, some failure.line⟩

/-! ## Lines -/

/-- A line that means something. -/
structure Line where
  /-- The number of the line in its source, from one. -/
  number : Nat
  /-- Whether the line starts with a blank. -/
  indented : Bool
  /-- The text of the line, without the blanks at both ends. -/
  text : List Char
  deriving DecidableEq

/-- Whether a trimmed line is a comment. -/
def isComment (text : List Char) : Bool :=
  text.head? == some '#' || text.head? == some ';'

/-- The meaning of a raw line; blank lines and comments have none. -/
def Line.ofRaw? (number : Nat) (raw : List Char) : Option Line :=
  let text := trim raw
  if text.isEmpty || isComment text then none else some ⟨number, raw.head?.any isBlank, text⟩

/-- The meanings of raw lines that are numbered from `number` on. -/
def linesFrom (number : Nat) : List (List Char) → List Line
  | [] => []
  | raw :: rest => (Line.ofRaw? number raw).toList ++ linesFrom (number + 1) rest

/-- The lines of a text that mean something. -/
def linesOf (text : String) : List Line :=
  linesFrom 1 (Text.lines text.toList)

/-! ## Blocks -/

/-- A header with the options below it. -/
structure Block where
  /-- The header. -/
  header : String
  /-- The number of the line that holds the header. -/
  line : Nat
  /-- The options below the header. -/
  options : Table String
  deriving DecidableEq

/-- The text between the brackets of a header line. -/
def headerOf? : List Char → Option (List Char)
  | '[' :: rest => if rest.getLast? = some ']' then some (trim rest.dropLast) else none
  | _ => none

/-- Whether `c` separates a key from its value. -/
def isDelimiter (c : Char) : Bool :=
  c == '=' || c == ':'

/-- The key and the value of an option line. -/
def optionOf (text : List Char) : Except Fault (String × String) :=
  match text.dropWhile fun c => !isDelimiter c with
  | [] => .error (.noDelimiter (String.ofList text))
  | _ :: value =>
    let key := trim (text.takeWhile fun c => !isDelimiter c)
    if key.isEmpty then .error (.noKey (String.ofList text))
    else .ok (String.ofList key, String.ofList (trim value))

/-- Opens a block, unless one with the same header is there. -/
def openBlock (blocks : List Block) (number : Nat) (header : List Char) :
    Except Fault (List Block) :=
  let name := String.ofList header
  if header.isEmpty then .error .emptyHeader
  else if blocks.any fun block => block.header = name then .error (.repeatedSection name)
  else .ok (⟨name, number, []⟩ :: blocks)

/-- Adds an option to the newest block. -/
def addOption (blocks : List Block) (text : List Char) : Except Fault (List Block) :=
  match blocks with
  | [] => .error (.noHeader (String.ofList text))
  | block :: earlier =>
    match optionOf text with
    | .error fault => .error fault
    | .ok (key, value) =>
      match block.options.get? key with
      | some existing => .error (.repeatedKey block.header key existing)
      | none => .ok ({ block with options := (key, value) :: block.options } :: earlier)

/-- Adds a line to the newest option, if there is one. -/
def continueOption? (text : List Char) : List Block → Option (List Block)
  | ⟨header, number, (key, value) :: options⟩ :: earlier =>
    some (⟨header, number, (key, value ++ "\n" ++ String.ofList text) :: options⟩ :: earlier)
  | _ => none

/-- The blocks with a line that does not continue a value. -/
def addLine (blocks : List Block) (line : Line) : Except Fault (List Block) :=
  match headerOf? line.text with
  | some header => openBlock blocks line.number header
  | none => addOption blocks line.text

/-- What a line adds to the blocks before it. -/
def scanLine (blocks : List Block) (line : Line) : Except Failure (List Block) :=
  match if line.indented then continueOption? line.text blocks else none with
  | some continued => .ok continued
  | none =>
    match addLine blocks line with
    | .ok blocks => .ok blocks
    | .error fault => .error ⟨line.number, fault⟩

/-- The block with its options in the order of the source. -/
def Block.inOrder (block : Block) : Block :=
  { block with options := block.options.reverse }

/-- The blocks of some lines, in the order of the source. -/
def scan (lines : List Line) : Except Failure (List Block) :=
  (lines.foldlM scanLine []).map fun blocks => (blocks.map Block.inOrder).reverse

/-! ## Headers -/

/-- The subsection of a header that names only a section. -/
def defaultSubsection : String := "main"

/-- The names in a header. -/
def headerNames (header : String) : List String :=
  (((Text.pieces '@' header.toList).map Text.trim).filter fun name => !name.isEmpty).map
    String.ofList

/-- The section and the subsection that a header names. -/
def splitHeader (header : String) : Except Fault (String × Option String) :=
  match headerNames header with
  | [] => .error (.invalidHeader header)
  | [sectionName] => .ok (sectionName, none)
  | [sectionName, subsectionName] => .ok (sectionName, some subsectionName)
  | _ => .error (.deepHeader header)

/-! ## Documents -/

/-- Sections with subsections of options. -/
abbrev Document := Table (Table (Table String))

namespace Document

/-- The document with the options of a block at the place that its header names. -/
def place (document : Document) (block : Block) : Except Fault Document :=
  match splitHeader block.header with
  | .error fault => .error fault
  | .ok (sectionName, named) =>
    let subsections := (document.get? sectionName).getD []
    let subsectionName := named.getD defaultSubsection
    if (subsections.get? subsectionName).isSome then
      match named with
      | some name => .error (.repeatedSubsection sectionName name)
      | none => .error (.repeatedSection sectionName)
    else .ok (document.put sectionName (subsections ++ [(subsectionName, block.options)]))

/-- The document with a block; a failure is found at the line of the block's header. -/
def placeAt (document : Document) (block : Block) : Except Failure Document :=
  match document.place block with
  | .ok document => .ok document
  | .error fault => .error ⟨block.line, fault⟩

/-- The document that blocks make up. -/
def ofBlocks (blocks : List Block) : Except Failure Document :=
  blocks.foldlM placeAt []

/-- The mapping from sections to mappings from subsections to mappings of options. -/
def toMapping (document : Document) : Mapping :=
  document.map fun (sectionName, subsections) =>
    (sectionName, .mapping (subsections.map fun (subsectionName, options) =>
      (subsectionName, .mapping (options.map fun (key, text) => (key, .string text)))))

end Document

/-- What errors call a source that has no name. -/
def unnamedSource : String := "<string>"

/-- The document that a text denotes. -/
def read (text : String) : Except Failure Document :=
  scan (linesOf text) >>= Document.ofBlocks

/-- The mapping that a text denotes; errors are reported in the source of the given name. -/
def parse (text : String) (source : String) : Except Error Mapping :=
  match read text with
  | .ok document => .ok document.toMapping
  | .error failure => .error (failure.toError source)

end ConfigTree.Ini
