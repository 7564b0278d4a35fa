import ConfigTree.Reference.Substitute

set_option relaxedAutoImplicit false
set_option autoImplicit false

/-!
# Events

What happens while a configuration is loaded, read and reported on. Events can be shown to a reader
who wants to follow the work; they have no influence on it.

## Main definitions

* `ConfigTree.Event` — the events.
* `ConfigTree.Event.severity` — how closely one has to look to see an event.
* `ConfigTree.Event.message` — the text of an event.
* `ConfigTree.Event.origin` — the part of the program that an event is attributed to.
-/

namespace ConfigTree

/-- How closely one has to look to see an event. -/
inductive Severity where
  /-- Shown only in the closest look. -/
  | trace
  /-- Shown in a close look. -/
  | debug
  deriving DecidableEq

/-- The name of a severity. -/
def Severity.name : Severity → String
  | trace => "TRACE"
  | debug => "DEBUG"

/-- Something that happened. -/
inductive Event where
  /-- The content of a file is there. -/
  | loading (file : String)
  /-- An INI source has been parsed. -/
  | parsed (sectionCount : Nat) (source : String)
  /-- A tree has been built. -/
  | built (label : String) (nodeCount : Nat)
  /-- A reference is substituted. -/
  | substituting (hop : Reference.Hop)
  /-- A configuration has been loaded for a command. -/
  | loaded (file : String) (sectionCount : Nat)
  /-- The default stands in for a path that is missing. -/
  | missing (path : String)
  /-- A file is about to be checked. -/
  | checking (file : String)
  /-- All files have been checked. -/
  | checked (fileCount : Nat) (loadFailed resolveFailed : Bool)

namespace Event

/-- How closely one has to look to see the event. -/
def severity : Event → Severity
  | substituting _ => .trace
  | _ => .debug

/-- The text of the event. -/
def message : Event → String
  | loading file => "loading config from " ++ file
  | parsed sectionCount source =>
    "parsed " ++ toString sectionCount ++ " sections from " ++ source
  | built label nodeCount =>
    "built config tree '" ++ label ++ "' with " ++ toString nodeCount ++ " nodes"
  | substituting hop =>
    "substituting $\x7b" ++ hop.target.text ++ "\x7d in " ++ hop.context.text ++ " (hop "
      ++ toString hop.number ++ ")"
  | loaded file sectionCount =>
    "loaded " ++ file ++ " with " ++ toString sectionCount ++ " sections"
  | missing path => path ++ " not found, using default"
  | checking file => "checking " ++ file
  | checked fileCount loadFailed resolveFailed =>
    "checked " ++ toString fileCount ++ " files (load failed: " ++ toString loadFailed
      ++ ", resolve failed: " ++ toString resolveFailed ++ ")"

/-- The part of the program that the event is attributed to. -/
def origin : Event → String
  | loading _ => "zyconf_core::config"
  | parsed _ _ => "zyconf_core::ini"
  | built _ _ => "zyconf_core::builder"
  | substituting _ => "zyconf_core::interpolation"
  | loaded _ _ | missing _ | checking _ | checked _ _ _ => "zyconf_cli::cli"

end Event

end ConfigTree
