import ConfigTree.Event
import ConfigTree.Json.Printer
import ConfigTree.Options
import ConfigTree.Tree.Build
import ConfigTree.Tree.Read
import ConfigTree.Yaml.Printer

set_option relaxedAutoImplicit false
set_option autoImplicit false

/-!
# Configurations

A configuration is a tree with the options that were asked for. It is built once, from a nested
mapping, and then only read.

A dotted path leads from the top of a configuration through nodes to an entry: all segments but the
last name nodes, and the last is a key of the node reached. The empty path leads to the top itself,
if an entry is asked for and not a value.

A configuration is exported as a nested mapping, or as a JSON or YAML text of that mapping. On
request all values are exported as they read, and the first one that cannot be read makes the
export fail.

## Main definitions

* `ConfigTree.Config` — the configurations.
* `ConfigTree.Config.build`, `ConfigTree.Config.buildWith` — the configuration of a nested mapping.
* `ConfigTree.Config.toValue`, `toJson`, `toYaml` — the exports.
* `ConfigTree.Config.resolveAll` — reads all values, for the sake of the first failure.
* `ConfigTree.Config.parentOf` — the node and the key that a path leads to.
* `ConfigTree.Config.lookup`, `lookupRaw` — the entry at a path, as it reads and as it is stored.
* `ConfigTree.Config.lookupValue`, `getInt`, `getFloat`, `getBool`, `getString` — the value at a
  path.
* `ConfigTree.Config.trail` — the references that a look-up substitutes.
-/

namespace ConfigTree

/-- What errors call the top of a configuration. -/
def rootLabel : String := "ROOT"

/-- A configuration: its tree, and the options that it reports. -/
structure Config where
  /-- The tree. -/
  tree : Tree
  /-- The options. -/
  options : Options

namespace Config

/-- The topmost node. -/
def root (config : Config) : Node :=
  config.tree.top

/-- The number of sections. -/
def sectionCount (config : Config) : Nat :=
  config.root.size

/-- The configuration of a nested mapping whose top stands at `depth` and has a label in errors. -/
def build (options : Options) (mapping : Mapping) (label : String) (depth : Nat) :
    Except Error Config :=
  (Tree.build options.treatment mapping label depth).map fun tree => ⟨tree, options⟩

/-- The configuration of a nested mapping whose values are treated in a way of their own, while the
configuration reports the usual options. -/
def buildWith (treatment : Treatment) (mapping : Mapping) : Except Error Config :=
  (Tree.build treatment mapping rootLabel 0).map fun tree => ⟨tree, {}⟩

/-- The same for the treatment that some options ask for. -/
def buildUnder (options : Options) (mapping : Mapping) : Except Error Config :=
  buildWith options.treatment mapping

/-- The events of building a configuration with the given outcome. -/
def buildEvents (label : String) : Except Error Config → List Event
  | .ok config => [.built label config.tree.nodeCount]
  | .error _ => []

/-! ## Exports -/

/-- The configuration as a nested mapping. -/
def toValue (config : Config) (resolved : Bool) : Except Error Value :=
  config.root.toValue resolved

/-- The configuration as a JSON text. -/
def toJson (config : Config) (resolved : Bool) : Except Error String :=
  (config.toValue resolved).map Json.print

/-- The configuration as a YAML text. -/
def toYaml (config : Config) (resolved : Bool) : Except Error String :=
  (config.toValue resolved).map Yaml.print

/-- Reads all values. -/
def resolveAll (config : Config) : Except Error Unit :=
  (config.toValue true).map fun _ => ()

/-- The references that an export substitutes. -/
def exportTrail (config : Config) (resolved : Bool) : List Reference.Hop :=
  config.root.exportTrail resolved

end Config

/-! ## Looking up paths -/

namespace Node

/-- The node that is reached by the keys, one after the other. -/
def walk (node : Node) : List String → Except Error Node
  | [] => .ok node
  | key :: rest => node.getNode key >>= fun child => child.walk rest

/-- The references that walking along the keys substitutes. -/
def walkTrail (node : Node) : List String → List Reference.Hop
  | [] => []
  | key :: rest =>
    node.trail key ++ match node.getNode key with
      | .ok child => child.walkTrail rest
      | .error _ => []

end Node

namespace Config

/-- The segments of a path that name nodes. -/
def parentSegments (path : String) : List String :=
  (Text.segments path).dropLast

/-- The last segment of a path. -/
def lastSegment (path : String) : String :=
  (Text.segments path).getLastD ""

/-- The node and the key that a path leads to. -/
def parentOf (config : Config) (path : String) : Except Error (Node × String) :=
  (config.root.walk (parentSegments path)).map fun node => (node, lastSegment path)

/-- The entry at a path, as it reads. -/
def lookup (config : Config) (path : String) : Except Error Entry :=
  if path = "" then .ok (.node config.root)
  else config.parentOf path >>= fun (node, key) => node.get key

/-- The entry at a path, as it is stored. -/
def lookupRaw (config : Config) (path : String) : Except Error Entry :=
  if path = "" then .ok (.node config.root)
  else config.parentOf path >>= fun (node, key) =>
    match node.getRaw? key with
    | some entry => .ok entry
    | none => .error (node.notFound key)

/-- The value at a path. -/
def lookupValue (config : Config) (path : String) : Except Error Value :=
  config.parentOf path >>= fun (node, key) => node.getValue key

/-- The value at a path, as an integer. -/
def getInt (config : Config) (path : String) : Except Error Int64 :=
  config.parentOf path >>= fun (node, key) => node.getInt key

/-- The value at a path, as a number. -/
def getFloat (config : Config) (path : String) : Except Error Binary64 :=
  config.parentOf path >>= fun (node, key) => node.getFloat key

/-- The value at a path, as a truth value. -/
def getBool (config : Config) (path : String) : Except Error Bool :=
  config.parentOf path >>= fun (node, key) => node.getBool key

/-- The value at a path, as a text. -/
def getString (config : Config) (path : String) : Except Error String :=
  config.parentOf path >>= fun (node, key) => node.getString key

/-- The value at a path, or a default if the path is missing. -/
def lookupOr (config : Config) (path : String) (fallback : Value) : Except Error Value :=
  Error.orDefault (config.lookupValue path) fallback

/-- The integer at a path, or a default if the path is missing. -/
def getIntOr (config : Config) (path : String) (fallback : Int64) : Except Error Int64 :=
  Error.orDefault (config.getInt path) fallback

/-- The number at a path, or a default if the path is missing. -/
def getFloatOr (config : Config) (path : String) (fallback : Binary64) : Except Error Binary64 :=
  Error.orDefault (config.getFloat path) fallback

/-- The truth value at a path, or a default if the path is missing. -/
def getBoolOr (config : Config) (path : String) (fallback : Bool) : Except Error Bool :=
  Error.orDefault (config.getBool path) fallback

/-- The text at a path, or a default if the path is missing. -/
def getStringOr (config : Config) (path : String) (fallback : String) : Except Error String :=
  Error.orDefault (config.getString path) fallback

/-- The references that reading the value at a path substitutes. -/
def trail (config : Config) (path : String) : List Reference.Hop :=
  config.root.walkTrail (parentSegments path) ++ match config.parentOf path with
    | .ok (node, key) => node.trail key
    | .error _ => []

/-- The references that looking up the entry at a path substitutes. -/
def lookupTrail (config : Config) (path : String) : List Reference.Hop :=
  if path = "" then [] else config.trail path

/-- The references that looking up the stored entry at a path substitutes. -/
def lookupRawTrail (config : Config) (path : String) : List Reference.Hop :=
  if path = "" then [] else config.root.walkTrail (parentSegments path)

end Config

end ConfigTree
