import ConfigTree.Text.Quoted

set_option relaxedAutoImplicit false
set_option autoImplicit false

/-!
# Levels and errors

A configuration has three levels. The level of a node says what its keys are: the root holds
sections, a section holds subsections and a subsection holds options.

An error reports what can go wrong while a configuration is read, built or asked for values. The
kind of an error says what happened, often with the level it happened at; around it an error may
carry the path in the configuration, the place in the source, the detail behind a failure and
advice.

## Main definitions

* `ConfigTree.Level` — the levels of nodes.
* `ConfigTree.maxLevel` — how many levels there are.
* `ConfigTree.Level.ofDepth` — the level of a node by its distance from the top.
* `ConfigTree.Reference.Fault` — what is wrong with a reference.
* `ConfigTree.Error.Kind` — what went wrong.
* `ConfigTree.Error` — a kind with its context.
* `ConfigTree.Error.message` — the full text of an error.
* `ConfigTree.Error.isNotFound` — the errors for which a default may stand in.
* `ConfigTree.Error.orDefault` — the use of such a default.
-/

namespace ConfigTree

/-! ## Levels -/

/-- The number of levels at which a node may stand. -/
def maxLevel : Nat := 3

/-- What the keys of a node are. -/
inductive Level where
  /-- The keys are sections. -/
  | sections
  /-- The keys are subsections. -/
  | subsections
  /-- The keys are options. -/
  | options
  /-- The node stands below the three levels. -/
  | unknown
  deriving DecidableEq

namespace Level

/-- The level of a node `depth` steps below the top. -/
def ofDepth : Nat → Level
  | 0 => sections
  | 1 => subsections
  | 2 => options
  | _ => unknown

/-- What one key of the level is called. -/
def name : Level → String
  | sections => "section"
  | subsections => "subsection"
  | options => "option"
  | unknown => "unknown"

/-- The name of the level itself. -/
def title : Level → String
  | sections => "Section"
  | subsections => "Subsection"
  | options => "Option"
  | unknown => "Unknown"

end Level

/-! ## Errors -/

open Text (quoted)

/-- What is wrong with a reference in the text of an option. -/
inductive Reference.Fault where
  /-- A dollar sign starts neither an escape nor a reference. -/
  | malformed (fragment : String)
  /-- The reference names no option. -/
  | missing (reference : String)
  /-- The chain of references is too long. -/
  | tooDeep (option requestedBy : String) (limit : Nat)
  /-- The text does not belong to an option below a section and a subsection. -/
  | misplaced (level : Level)
  deriving DecidableEq

/-- The text that describes a faulty reference. -/
def Reference.Fault.message : Reference.Fault → String
  | .malformed fragment => "Bad interpolation syntax at " ++ quoted fragment
  | .missing reference => "Bad interpolation variable reference " ++ quoted reference
  | .tooDeep option requestedBy limit =>
    "Interpolation depth limit exceeded in value substitution: option " ++ quoted option ++ " in "
      ++ quoted requestedBy ++ " contains an interpolation key which cannot be substituted in "
      ++ toString limit ++ " steps"
  | .misplaced level => "Can't interpolate value for node's level " ++ level.name

/-- What went wrong. -/
inductive Error.Kind where
  /-- The source is malformed. -/
  | parse
  /-- A file cannot be read. -/
  | unreadable
  /-- A header or key has more levels than there are. -/
  | maxLevelExceeded (header : String) (limit : Nat)
  /-- A section occurs twice. -/
  | duplicateSection (name : String)
  /-- A subsection of one section occurs twice. -/
  | duplicateSubsection (sectionName name : String)
  /-- Two keys of one node are the same key. -/
  | duplicateKey (level : Level) (key existing : String)
  /-- There is no such section. -/
  | noSection (name : String)
  /-- There is no such subsection. -/
  | noSubsection (name : String)
  /-- There is no such option. -/
  | noOption (sectionName subsectionName name : String)
  /-- There is no such key at a node that has no place below a section and a subsection. -/
  | noKey (key : String)
  /-- A tree that is built cannot be changed. -/
  | readOnly
  /-- A reference cannot be substituted. -/
  | interpolation (fault : Reference.Fault)
  /-- A value is not of the type asked for. -/
  | typeCoercion
  deriving DecidableEq

/-- The text that describes what went wrong. -/
def Error.Kind.message : Error.Kind → String
  | .parse => "Parse error"
  | .unreadable => "I/O error"
  | .maxLevelExceeded header limit =>
    "Level of config header " ++ quoted header ++ " exceeded max level of config ("
      ++ toString limit ++ ")"
  | .duplicateSection name => "Section " ++ quoted name ++ " already exists"
  | .duplicateSubsection sectionName name =>
    "Subsection " ++ quoted name ++ " in section " ++ quoted sectionName ++ " already exists"
  | .duplicateKey level key existing =>
    "Can't set " ++ level.name ++ " key " ++ quoted key ++ ", it was already set to " ++ existing
  | .noSection name => "No section: " ++ quoted name
  | .noSubsection name => "No subsection: " ++ quoted name
  | .noOption sectionName subsectionName name =>
    "No option " ++ quoted name ++ " in " ++ quoted sectionName ++ "." ++ quoted subsectionName
  | .noKey key => "No key: " ++ quoted key
  | .readOnly => "Can not modify read only config"
  | .interpolation fault => fault.message
  | .typeCoercion => "Type coercion failed"

/-- A place in a source: the file and, if known, the line. -/
structure SourceLocation where
  /-- The name of the file. -/
  file : String
  /-- The number of the line, from one. -/
  line : Option Nat
  deriving DecidableEq

/-- An error with its context. -/
structure Error where
  /-- What went wrong. -/
  kind : Error.Kind
  /-- The path in the configuration. -/
  path : Option String := none
  /-- The place in the source. -/
  location : Option SourceLocation := none
  /-- What lies behind the failure. -/
  detail : Option String := none
  /-- What can be done about it. -/
  help : Option String := none
  deriving DecidableEq

namespace Error

/-- The source is malformed, as the detail says. -/
def parse (detail : String) : Error :=
  ⟨.parse, none, none, some detail, none⟩

/-- The file cannot be read, for the reason given as the detail. -/
def unreadable (file detail : String) : Error :=
  ⟨.unreadable, none, some ⟨file, none⟩, some detail,
    some ("Check that '" ++ file ++ "' exists and is readable")⟩

/-- The header or key has more levels than there are. -/
def maxLevelExceeded (header : String) (limit : Nat) : Error :=
  ⟨.maxLevelExceeded header limit, none, none, none,
    some "Only section, subsection and option levels are allowed (e.g. [section@subsection])"⟩

/-- The section occurs twice. -/
def duplicateSection (name : String) : Error :=
  ⟨.duplicateSection name, some name, none, none, none⟩

/-- The subsection of the section occurs twice. -/
def duplicateSubsection (sectionName name : String) : Error :=
  ⟨.duplicateSubsection sectionName name, some (sectionName ++ "." ++ name), none, none, none⟩

/-- The key is the same as an earlier one, whose content is described by `existing`. -/
def duplicateKey (level : Level) (key existing : String) : Error :=
  ⟨.duplicateKey level key existing, some key, none, none,
    some "Keys are case-insensitive; remove or rename one of them"⟩

/-- There is no such section. -/
def noSection (name : String) : Error :=
  ⟨.noSection name, some name, none, none, none⟩

/-- There is no such subsection. -/
def noSubsection (name : String) : Error :=
  ⟨.noSubsection name, none, none, none, none⟩

/-- There is no such option in the subsection of the section. -/
def noOption (sectionName subsectionName name : String) : Error :=
  ⟨.noOption sectionName subsectionName name,
    some (sectionName ++ "." ++ subsectionName ++ "." ++ name), none, none, none⟩

/-- There is no such key. -/
def noKey (key : String) : Error :=
  ⟨.noKey key, none, none, none, none⟩

/-- The tree cannot be changed. -/
def readOnly : Error :=
  ⟨.readOnly, none, none, none, some "Configuration trees are immutable once built"⟩

/-- A dollar sign in the text at `context` starts neither an escape nor a reference. -/
def malformedReference (fragment context : String) : Error :=
  ⟨.interpolation (.malformed fragment), some context, none, none,
    some "Use $\x7bsection.subsection.option\x7d for references and $$ for a literal $"⟩

/-- The reference in the text at `context` names no option. -/
def missingReference (reference context : String) : Error :=
  ⟨.interpolation (.missing reference), some context, none, none,
    some ("Check that '" ++ reference ++ "' exists in the configuration")⟩

/-- The chain of references that starts at `requestedBy` is too long. -/
def deepReference (option requestedBy : String) (limit : Nat) : Error :=
  ⟨.interpolation (.tooDeep option requestedBy limit), some requestedBy, none, none,
    some "Reference the final value directly instead of chaining references"⟩

/-- A text with references stands at a node of this level, where it has no full path. -/
def misplacedReference (level : Level) : Error :=
  ⟨.interpolation (.misplaced level), none, none, none, none⟩

/-- The value at `path` is `got`, not of the type `expected`. -/
def typeCoercion (path expected got : String) : Error :=
  ⟨.typeCoercion, some path, none, some ("Got: " ++ got),
    some ("Ensure the value can be converted to " ++ expected)⟩

/-- The error with the given path. -/
def withPath (e : Error) (path : String) : Error :=
  { e with path := some path }

/-- The error with the given place in the source. -/
def withLocation (e : Error) (location : SourceLocation) : Error :=
  { e with location := some location }

/-- The error with the given advice. -/
def withHelp (e : Error) (help : String) : Error :=
  { e with help := some help }

/-- Whether the error is a look-up that found nothing, for which a default may stand in. -/
def isNotFound (e : Error) : Bool :=
  match e.kind with
  | .noSection _ | .noSubsection _ | .noOption _ _ _ | .noKey _ => true
  | _ => false

/-- Whether the error comes from the substitution of references. -/
def isInterpolation (e : Error) : Bool :=
  match e.kind with
  | .interpolation _ => true
  | _ => false

/-- The text of a place: the file, and the line after a colon. -/
def locationText (location : SourceLocation) : String :=
  match location.line with
  | some line => location.file ++ ":" ++ toString line
  | none => location.file

/-- One line of context below the kind of an error, if there is something to say. -/
def contextLine (label : String) : Option String → String
  | some text => "\n  " ++ label ++ text
  | none => ""

/-- The full text of an error: what went wrong, and one line for each known part of the context. -/
def message (e : Error) : String :=
  e.kind.message ++ contextLine "Path: " e.path
    ++ contextLine "File: " (e.location.map locationText)
    ++ contextLine "" e.detail ++ contextLine "Help: " e.help

/-- The result, with a default in place of a look-up that found nothing; every other error stays. -/
def orDefault {α : Type} (result : Except Error α) (fallback : α) : Except Error α :=
  match result with
  | .ok a => .ok a
  | .error e => if e.isNotFound then .ok fallback else .error e

end Error

end ConfigTree
