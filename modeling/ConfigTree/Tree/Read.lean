import ConfigTree.Decimal.Numeral
import ConfigTree.Text.Basic
import ConfigTree.Tree.Basic
import ConfigTree.Value.Basic
import ConfigTree.Value.Display

set_option relaxedAutoImplicit false
set_option autoImplicit false

/-!
# Reading and exporting nodes

Reading a key of a node gives its child node or its value. The text of an option reads as the
treatment of its tree says, which may substitute references in it.

Values can be asked for as integers, numbers, truth values and texts. Each of these reads has a form
with a default, which stands in only for a key that is missing.

A node is exported as a mapping from its keys to the exports of its entries. Values are exported as
they are stored or, on request, as they read; then the first value that cannot be read makes the
export fail.

## Main definitions

* `ConfigTree.Node.get` — the entry under a key, as it reads.
* `ConfigTree.Node.getNode`, `ConfigTree.Node.getValue` — the same, if it is a node or a value.
* `ConfigTree.Node.getInt`, `getFloat`, `getBool`, `getString` — typed reads.
* `ConfigTree.Node.notFound` — the error about a missing key.
* `ConfigTree.Node.trail` — the references that a read substitutes.
* `ConfigTree.Tree.exportFrom` — the exported form of a node of a tree.
* `ConfigTree.Node.toValue` — the same for a node.
* `ConfigTree.Node.exportTrail` — the references that an export substitutes.

## Implementation notes

Children stand before their parent in the arena, so the export follows a slot only to an earlier
node; the slots of a tree that was built all hold earlier nodes.
-/

namespace ConfigTree

/-! ## Reads -/

namespace Node

open Text (trim)

/-- The stored value of the option at a full path, below this node. -/
def stored? (node : Node) (path : OptionPath) : Option Value :=
  node.tree.nodes.stored? node.id path

/-- The text with its references substituted, as a text of the option `origin`; this node is where
the paths of references start. -/
def substitute (node : Node) (origin : OptionPath) (raw : String) : Except Error String :=
  Reference.substitute node.stored? origin raw

/-- The value that the text of an option reads as. -/
def resolve (node : Node) (key raw : String) : Except Error Value :=
  node.tree.treatment.read node.tree.nodes node.id key raw

/-- The error about a missing key. -/
def notFound (node : Node) (key : String) : Error :=
  match node.level with
  | .sections => .noSection key
  | .subsections => (Error.noSubsection key).withPath (node.pathOf key)
  | .options =>
    match OptionPath.ofList? (node.fullKey key) with
    | some path => .noOption path.sectionName path.subsectionName path.optionName
    | none => (Error.noKey key).withPath (node.pathOf key)
  | .unknown => (Error.noKey key).withPath (node.pathOf key)

/-- The entry under a key; the text of an option is resolved. -/
def get (node : Node) (key : String) : Except Error Entry :=
  match node.getRaw? key with
  | some (.value (.string raw)) =>
    if node.level = .options then (node.resolve key raw).map .value
    else .ok (.value (.string raw))
  | some entry => .ok entry
  | none => .error (node.notFound key)

/-- The error about an entry that is not of the type asked for. -/
def mismatch (node : Node) (key expected got : String) : Error :=
  .typeCoercion (node.pathOf key) expected got

/-- The child node under a key. -/
def getNode (node : Node) (key : String) : Except Error Node :=
  match node.get key with
  | .ok (.node child) => .ok child
  | .ok (.value value) => .error (node.mismatch key "node" value.typeName)
  | .error e => .error e

/-- The value under a key. -/
def getValue (node : Node) (key : String) : Except Error Value :=
  match node.get key with
  | .ok (.value value) => .ok value
  | .ok (.node _) => .error (node.mismatch key "value" "node")
  | .error e => .error e

/-- The error about a text that cannot be read as a number. -/
def notNumeric (node : Node) (key expected text : String) : Error :=
  node.mismatch key expected ("string (\"" ++ text ++ "\")")

/-- The integer that a value stands for; a text may hold its decimal digits. -/
def toInt (node : Node) (key : String) : Value → Except Error Int64
  | .integer n => .ok n
  | .string text =>
    match (Decimal.int? (trim text.toList)).bind int64? with
    | some n => .ok n
    | none => .error (node.notNumeric key "integer" text)
  | value => .error (node.mismatch key "integer" value.typeName)

/-- The number that a value stands for; a text may hold its numeral. -/
def toFloat (node : Node) (key : String) : Value → Except Error Binary64
  | .float x => .ok x
  | .integer n => .ok (Binary64.ofInt n.toInt)
  | .string text =>
    match Decimal.binary64OrName? (trim text.toList) with
    | some x => .ok x
    | none => .error (node.notNumeric key "float" text)
  | value => .error (node.mismatch key "float" value.typeName)

/-- The truth value that a value stands for. -/
def toBool (node : Node) (key : String) (value : Value) : Except Error Bool :=
  match value.toBool? with
  | some b => .ok b
  | none =>
    .error (node.mismatch key "boolean" (value.typeName ++ " (\"" ++ value.display ++ "\")"))

/-- The text that displays a value. -/
def toText (node : Node) (key : String) : Value → Except Error String
  | .string text => .ok text
  | .mapping _ => .error (node.mismatch key "string" "mapping")
  | value => .ok value.display

/-- The value under a key, as an integer. -/
def getInt (node : Node) (key : String) : Except Error Int64 :=
  node.getValue key >>= node.toInt key

/-- The value under a key, as a number. -/
def getFloat (node : Node) (key : String) : Except Error Binary64 :=
  node.getValue key >>= node.toFloat key

/-- The value under a key, as a truth value. -/
def getBool (node : Node) (key : String) : Except Error Bool :=
  node.getValue key >>= node.toBool key

/-- The value under a key, as a text. -/
def getString (node : Node) (key : String) : Except Error String :=
  node.getValue key >>= node.toText key

/-- The entry under a key, or a default if the key is missing. -/
def getOr (node : Node) (key : String) (fallback : Entry) : Except Error Entry :=
  Error.orDefault (node.get key) fallback

/-- The value under a key, or a default if the key is missing. -/
def getValueOr (node : Node) (key : String) (fallback : Value) : Except Error Value :=
  Error.orDefault (node.getValue key) fallback

/-- The integer under a key, or a default if the key is missing. -/
def getIntOr (node : Node) (key : String) (fallback : Int64) : Except Error Int64 :=
  Error.orDefault (node.getInt key) fallback

/-- The number under a key, or a default if the key is missing. -/
def getFloatOr (node : Node) (key : String) (fallback : Binary64) : Except Error Binary64 :=
  Error.orDefault (node.getFloat key) fallback

/-- The truth value under a key, or a default if the key is missing. -/
def getBoolOr (node : Node) (key : String) (fallback : Bool) : Except Error Bool :=
  Error.orDefault (node.getBool key) fallback

/-- The text under a key, or a default if the key is missing. -/
def getStringOr (node : Node) (key : String) (fallback : String) : Except Error String :=
  Error.orDefault (node.getString key) fallback

/-- The references that reading a key substitutes, in order. -/
def trail (node : Node) (key : String) : List Reference.Hop :=
  match node.getRaw? key with
  | some (.value (.string raw)) =>
    if node.level = .options then
      node.tree.treatment.trail node.tree.nodes node.id key raw
    else []
  | _ => []

end Node

/-! ## Exports -/

namespace Tree

/-- The exported form of a node; `resolved` says whether values are exported as they read. -/
def exportFrom (tree : Tree) (resolved : Bool) (id : Nat) : Except Error Value :=
  ((tree.nodes.data id).entries.mapM fun entry =>
    match entry with
    | (key, Slot.node child) =>
      if _h : child < id then (tree.exportFrom resolved child).map fun value => (key, value)
      else .ok (key, .mapping [])
    | (key, Slot.value raw) =>
      if resolved then ((⟨tree, id⟩ : Node).getValue key).map fun value => (key, value)
      else .ok (key, raw)).map Value.mapping
termination_by id

/-- The references that an export of a node as it reads substitutes, up to the first failure, and
whether there is none. -/
def exportTrailFrom (tree : Tree) (id : Nat) : List Reference.Hop × Bool :=
  (tree.nodes.data id).entries.foldl (fun sofar entry =>
    match sofar, entry with
    | (hops, false), _ => (hops, false)
    | (hops, true), (_, Slot.node child) =>
      if _h : child < id then
        let more := tree.exportTrailFrom child
        (hops ++ more.1, more.2)
      else (hops, true)
    | (hops, true), (key, .value _) =>
      let node : Node := ⟨tree, id⟩
      (hops ++ node.trail key, (node.getValue key).isOk)) ([], true)
termination_by id

end Tree

namespace Node

/-- The exported form of the node; `resolved` says whether values are exported as they read. -/
def toValue (node : Node) (resolved : Bool) : Except Error Value :=
  node.tree.exportFrom resolved node.id

/-- The references that an export of the node substitutes, in order. -/
def exportTrail (node : Node) (resolved : Bool) : List Reference.Hop :=
  if resolved then (node.tree.exportTrailFrom node.id).1 else []

end Node

end ConfigTree
