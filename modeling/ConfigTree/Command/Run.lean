import ConfigTree.Command.Arguments
import ConfigTree.Config.Source
import ConfigTree.Event
import ConfigTree.File
import ConfigTree.Text.ControlSequence

set_option relaxedAutoImplicit false
set_option autoImplicit false

/-!
# Running commands

A command runs on the texts of the files that it names and ends with a report. The report holds what
the command has to say: texts for the output, texts about its course, events, and at most one file
to be written. Nothing is said or written here; the report is complete before that.

## Main definitions

* `ConfigTree.Report` — the reports.
* `ConfigTree.Report.output`, `ConfigTree.Report.course` — what is shown.
* `ConfigTree.Report.afterWrite` — the report when the attempt to write the file is over.
* `ConfigTree.Command.files` — the files that a command reads.
* `ConfigTree.Command.run` — the report of a command.
-/

namespace ConfigTree

/-! ## Reports -/

/-- Something that is said. -/
inductive Statement where
  /-- A text for the output. -/
  | output (text : String)
  /-- A line about the course of the work. -/
  | notice (text : String)
  /-- An event. -/
  | event (event : Event)

/-- How a command ended. -/
inductive Verdict where
  /-- Everything succeeded. -/
  | success
  /-- A look-up, a substitution or an output failed. -/
  | failure
  /-- A file could not be loaded. -/
  | notLoaded
  deriving DecidableEq

/-- The number that stands for a verdict. -/
def Verdict.code : Verdict → Nat
  | success => 0
  | failure => 1
  | notLoaded => 2

/-- What a command has to say. -/
structure Report where
  /-- What is said, in order. -/
  statements : List Statement
  /-- How the command ended. -/
  verdict : Verdict
  /-- A file to be written, with its content. -/
  pending : Option (String × String) := none

namespace Report

/-- The report of a command that ends with a notice about its failure. -/
def failed (events : List Event) (verdict : Verdict) (notice : String) : Report :=
  ⟨events.map .event ++ [.notice notice], verdict, none⟩

/-- The report when the attempt to write the pending file is over. -/
def afterWrite (report : Report) (fault : Option FileFault) : Report :=
  match report.pending with
  | none => report
  | some (file, _) =>
    match fault with
    | none => ⟨report.statements ++ [.notice ("✓ Wrote to " ++ file)], report.verdict, none⟩
    | some fault =>
      ⟨report.statements ++ [.notice ("Error writing file: " ++ fault.message)], .failure, none⟩

/-- Everything that is shown as output. -/
def output (report : Report) : String :=
  String.join (report.statements.map fun statement =>
    match statement with
    | .output text => text
    | _ => "")

/-- The text with four spaces at the start of each line but the first. -/
def indented (text : String) : String :=
  String.ofList (text.toList.flatMap fun c => if c = '\n' then "\n    ".toList else [c])

/-- The line that shows an event. Its message may quote any text, so control sequences are taken
out. -/
def eventLine (event : Event) : String :=
  Text.withoutControls <|
    "[" ++ event.severity.name ++ " " ++ event.origin ++ "] " ++ indented event.message ++ "\n"

/-- Everything that is shown about the course of the work; `verbose` says whether events are. -/
def course (verbose : Bool) (report : Report) : String :=
  String.join (report.statements.map fun statement =>
    match statement with
    | .output _ => ""
    | .notice text => text ++ "\n"
    | .event event =>
      if verbose && event.severity = .debug then eventLine event else "")

end Report

/-! ## Commands -/

/-- The printed form of a value, with a line feed at its end. -/
def printValue (format : String) (value : Value) : Except String String :=
  match format with
  | "json" => .ok (Json.print value ++ "\n")
  | "yaml" => .ok (Yaml.print value)
  | "text" =>
    match value with
    | .sequence _ | .mapping _ => .ok (Yaml.print value)
    | .null => .ok "None\n"
    | scalar => .ok (scalar.display ++ "\n")
  | other => .error ("Unsupported format: " ++ other ++ ". Use text, json, or yaml.")

/-- The printed form of a configuration, with a line feed at its end. -/
def printConfig (format : String) (config : Config) (resolved : Bool) : Except String String :=
  let described (result : Except Error String) : Except String String :=
    result.mapError fun e => "Error: " ++ e.message
  match format with
  | "json" => described ((config.toJson resolved).map (· ++ "\n"))
  | "yaml" | "yml" => described (config.toYaml resolved)
  | other => .error ("Unsupported format: " ++ other ++ ". Use yaml or json.")

namespace Command

/-- The texts of files by their names. -/
abbrev Reading := String → Except FileFault String

/-- The files that a command reads, in order. -/
def files : Command → List String
  | get file _ _ _ _ => [file]
  | dump file _ _ _ => [file]
  | check files => files

/-- The configuration in a file. -/
def loadFile (read : Reading) (file : String) : Except Error Config :=
  (Source.file file (read file)).load {}

/-- The events of loading the configuration in a file. -/
def loadEvents (read : Reading) (file : String) : List Event :=
  (Source.file file (read file)).events {}

/-- The value of an entry: its own value, or what its node is exported as. -/
def entryValue (resolved : Bool) : Entry → Except Error Value
  | .value value => .ok value
  | .node node => node.toValue resolved

/-- The value at a path: the stored one, or the one that it reads as. -/
def valueAt (config : Config) (path : String) (raw : Bool) : Except Error Value :=
  if raw then config.lookupRaw path >>= entryValue false
  else config.lookup path >>= entryValue true

/-- The report of a command on the configuration of a file, or on the failure to load it. -/
def onConfig (read : Reading) (file : String) (report : List Event → Config → Report) : Report :=
  match loadFile read file with
  | .ok config => report (loadEvents read file ++ [.loaded file config.sectionCount]) config
  | .error e =>
    .failed (loadEvents read file) .notLoaded ("Failed to load " ++ file ++ "\n" ++ e.message)

/-- The report on the value at a path. -/
def reportValue (path : String) (raw : Bool) (format : String) (fallback : Option String)
    (events : List Event) (config : Config) : Report :=
  match valueAt config path raw with
  | .ok value =>
    match printValue format value with
    | .ok text => ⟨events.map .event ++ [.output text], .success, none⟩
    | .error notice => .failed events .failure notice
  | .error e =>
    if e.isNotFound then
      match fallback with
      | some text =>
        ⟨(events ++ [Event.missing path]).map .event ++ [.output (text ++ "\n")], .success, none⟩
      | none =>
        .failed events .failure ("Error: Path '" ++ path ++ "' not found\n" ++ e.message)
    else .failed events .failure ("Error: " ++ e.message)

/-- The report on an export. -/
def reportExport (resolved : Bool) (format : String) (output : Option String)
    (events : List Event) (config : Config) : Report :=
  match printConfig format config resolved, output with
  | .ok text, none => ⟨events.map .event ++ [.output text], .success, none⟩
  | .ok text, some file => ⟨events.map .event, .success, some (file, text)⟩
  | .error notice, _ => .failed events .failure notice

/-- What is said about a file that is checked, and what becomes of the check. -/
def checkFile (read : Reading) (file : String) : List Statement × Verdict :=
  let events := (.checking file :: loadEvents read file).map Statement.event
  match loadFile read file with
  | .error e => (events ++ [.notice ("✗ " ++ file ++ ": " ++ e.message)], .notLoaded)
  | .ok config =>
    match config.resolveAll with
    | .ok () =>
      (events ++ [.output ("✓ " ++ file ++ ": " ++ toString config.sectionCount ++ " sections\n")],
        .success)
    | .error e => (events ++ [.notice ("✗ " ++ file ++ ": " ++ e.message)], .failure)

/-- The report on files that are checked. -/
def reportCheck (read : Reading) (files : List String) : Report :=
  let checks := files.map (checkFile read)
  let loadFailed := checks.any fun check => check.2 = .notLoaded
  let resolveFailed := checks.any fun check => check.2 = .failure
  let statements := checks.flatMap Prod.fst
    ++ [.event (.checked files.length loadFailed resolveFailed)]
  if loadFailed then
    ⟨statements ++ [.notice "Some files could not be loaded"], .notLoaded, none⟩
  else if resolveFailed then
    ⟨statements ++ [.notice "Some values could not be resolved"], .failure, none⟩
  else ⟨statements, .success, none⟩

/-- The report of a command on the files it reads. -/
def run (read : Reading) : Command → Report
  | get file path raw format fallback =>
    onConfig read file (reportValue path raw format fallback)
  | dump file resolved format output => onConfig read file (reportExport resolved format output)
  | check files => reportCheck read files

end Command

end ConfigTree
