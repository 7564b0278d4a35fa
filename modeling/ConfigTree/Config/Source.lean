import ConfigTree.Config.Basic
import ConfigTree.File
import ConfigTree.Ini.Document
import ConfigTree.Json.Reader
import ConfigTree.Yaml.Reader

set_option relaxedAutoImplicit false
set_option autoImplicit false

/-!
# Sources of configurations

A configuration comes from a text in INI, JSON or YAML form, or from a file whose form shows in the
end of its name. All forms denote nested mappings.

## Main definitions

* `ConfigTree.Format` — the forms of texts.
* `ConfigTree.Format.ofFile` — the form that the name of a file shows.
* `ConfigTree.Format.mapping` — the mapping that a text denotes.
* `ConfigTree.Source` — where a configuration comes from.
* `ConfigTree.Source.load` — the configuration that comes from a source.
* `ConfigTree.Source.events` — the events of loading it.
-/

namespace ConfigTree

/-- The forms of texts that denote mappings. -/
inductive Format where
  /-- Lines below headers. -/
  | ini
  /-- JSON. -/
  | json
  /-- YAML. -/
  | yaml
  deriving DecidableEq

/-- The part of a file name after its last period, unless the name has none but at its start. -/
def extension? (file : String) : Option String :=
  let name := (Text.pieces '/' file.toList).getLastD []
  match (Text.pieces '.' name).reverse with
  | [] | [_] | [_, []] => none
  | last :: _ => some (String.ofList last)

/-- The top of a value that denotes a configuration. -/
def topMapping (value : Value) : Except Error Mapping :=
  match value with
  | .mapping entries => .ok entries
  | _ =>
    .error ((Error.parse ("Expected a mapping at the top level, got " ++ value.typeName)).withHelp
      "Nest options as section -> subsection -> option")

namespace Format

/-- The form that the name of a file shows; letters of either case do. -/
def ofFile (file : String) : Format :=
  match (extension? file).map fun ending => ending.map Char.toLower with
  | some "json" => json
  | some "yaml" | some "yml" => yaml
  | _ => ini

/-- The error about a text that has not its form, in the named file. The message of the reader of the
form, which would be the detail of the error, is left out: readers only tell whether a text has their
form. -/
def malformed (file : Option String) : Error :=
  { kind := .parse, path := file }

/-- The mapping that a text denotes. The file it comes from shows in errors. -/
def mapping (format : Format) (file : Option String) (text : String) : Except Error Mapping :=
  match format with
  | ini => Ini.parse text (file.getD Ini.unnamedSource)
  | json =>
    match Json.read? text with
    | some value => topMapping value
    | none => .error (malformed file)
  | yaml =>
    match Yaml.read? text with
    | some value => topMapping value
    | none => .error (malformed file)

/-- The events of reading a text with the given outcome. -/
def events (format : Format) (file : Option String) : Except Error Mapping → List Event
  | .ok mapping =>
    match format with
    | ini => [.parsed mapping.length (file.getD Ini.unnamedSource)]
    | _ => []
  | .error _ => []

end Format

/-- Where a configuration comes from. -/
inductive Source where
  /-- A text. -/
  | text (format : Format) (content : String)
  /-- A file with its text, or the reason why it cannot be read. -/
  | file (name : String) (content : Except FileFault String)

namespace Source

/-- The mapping that a source denotes. -/
def mapping : Source → Except Error Mapping
  | text format content => format.mapping none content
  | file name content =>
    match content with
    | .ok content => (Format.ofFile name).mapping (some name) content
    | .error fault => .error (.unreadable name fault.message)

/-- The configuration that comes from a source. -/
def load (options : Options) (source : Source) : Except Error Config :=
  source.mapping >>= fun mapping => Config.build options mapping rootLabel 0

/-- The events of reading the mapping that a source denotes. -/
def mappingEvents (source : Source) : List Event :=
  match source with
  | text format _ => format.events none source.mapping
  | file name (.ok _) => .loading name :: (Format.ofFile name).events (some name) source.mapping
  | file _ (.error _) => []

/-- The events of loading a configuration from a source. -/
def events (options : Options) (source : Source) : List Event :=
  source.mappingEvents ++ Config.buildEvents rootLabel (source.load options)

end Source

end ConfigTree
