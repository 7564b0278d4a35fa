import ConfigTree.Error
import ConfigTree.Reference.Substitute
import ConfigTree.Table
import ConfigTree.Text.Basic

set_option relaxedAutoImplicit false
set_option autoImplicit false

/-!
# Trees

A configuration is stored as an arena of nodes. Each node has a table of entries, which are child
nodes or values, and a cell for its parent that is assigned once, while the tree is built.
Children come before their parent, so the root is the last node.

Keys that differ only in case are the same key. A tree stores each key in lower case and looks keys
up in lower case.

A tree comes with a treatment: what becomes of a value when it enters the tree, and what the text of
an option reads as. The ways through a tree depend on its arena alone.

## Main definitions

* `ConfigTree.normalizeKey` — the form in which a key is stored and looked up.
* `ConfigTree.Slot` — what a node stores under a key.
* `ConfigTree.NodeData` — the stored form of a node.
* `ConfigTree.Arena.slot?` — what a node stores under a key, in any spelling.
* `ConfigTree.Arena.parent?`, `ConfigTree.Arena.topOf`, `ConfigTree.Arena.fullKey` — the way up.
* `ConfigTree.Treatment` — what becomes of values that enter and leave a tree.
* `ConfigTree.Tree` — an arena with its root and its treatment.
* `ConfigTree.Node` — a node of a tree.
* `ConfigTree.Node.summary` — a line that identifies a node.

## Implementation notes

The walks towards the root follow a parent link only to a later node of the arena, which makes them
terminate for every arena. The links of a tree that was built all lead to later nodes.
-/

namespace ConfigTree

/-- The form in which a key is stored and looked up. -/
def normalizeKey (key : String) : String :=
  String.ofList (Text.lowercase key.toList)

/-- What a node stores under a key. -/
inductive Slot where
  /-- A child node. -/
  | node (id : Nat)
  /-- A value. -/
  | value (value : Value)

/-- The stored form of a node. -/
structure NodeData where
  /-- What the keys of the node are. -/
  level : Level
  /-- The entries, under normalized keys. -/
  entries : Table Slot
  /-- The cell for the parent: empty at first, and then either the parent or its absence. -/
  parent : Option (Option Nat) := none

/-- Outside of an arena there is an empty node of unknown level. -/
instance : Inhabited NodeData := ⟨⟨.unknown, [], none⟩⟩

/-- The nodes of a tree that is built or being built. -/
abbrev Arena := Array NodeData

namespace Arena

/-- The stored form of a node. -/
def data (arena : Arena) (id : Nat) : NodeData :=
  arena.getD id default

/-- What a node stores under a key. -/
def slot? (arena : Arena) (id : Nat) (key : String) : Option Slot :=
  (arena.data id).entries.get? (normalizeKey key)

/-- The stored value of the option at a full path, below the node `id`. -/
def stored? (arena : Arena) (id : Nat) (path : OptionPath) : Option Value :=
  match arena.slot? id path.sectionName with
  | some (.node inSection) =>
    match arena.slot? inSection path.subsectionName with
    | some (.node inSubsection) =>
      match arena.slot? inSubsection path.optionName with
      | some (.value value) => some value
      | _ => none
    | _ => none
  | _ => none

/-- The key under which a node stores the child `id`. -/
def nameOf? (arena : Arena) (parent id : Nat) : Option String :=
  ((arena.data parent).entries.find? fun entry =>
    match entry.2 with
    | .node child => child = id
    | .value _ => false).map Prod.fst

/-- The parent of a node. -/
def parent? (arena : Arena) (id : Nat) : Option Nat :=
  (arena.data id).parent.join

/-- The topmost node that the parent links lead to. -/
def topOf (arena : Arena) (id : Nat) : Nat :=
  match arena.parent? id with
  | some parent =>
    if _h : id < parent ∧ parent < arena.size then arena.topOf parent else parent
  | none => id
termination_by arena.size - id

/-- The keys that lead from the topmost node to a node. -/
def keysTo (arena : Arena) (id : Nat) : List String :=
  match arena.parent? id with
  | some parent =>
    (if _h : id < parent ∧ parent < arena.size then arena.keysTo parent else [])
      ++ (arena.nameOf? parent id).toList
  | none => []
termination_by arena.size - id

/-- The keys that lead from the topmost node to the key of a node. -/
def fullKey (arena : Arena) (id : Nat) (key : String) : List String :=
  arena.keysTo id ++ [key]

end Arena

/-- What becomes of values that enter and leave a tree. -/
structure Treatment where
  /-- The form in which a value is stored. -/
  store : Value → Value
  /-- The value that the text stored under a key of a node reads as. -/
  read : Arena → Nat → String → String → Except Error Value
  /-- The references that this read substitutes, in order. -/
  trail : Arena → Nat → String → String → List Reference.Hop

/-- An arena of nodes with its root, and the treatment of its values. -/
structure Tree where
  /-- The nodes, children before their parents. -/
  nodes : Arena
  /-- The topmost node. -/
  root : Nat
  /-- What becomes of the values. -/
  treatment : Treatment

/-- A node of a tree. -/
structure Node where
  /-- The tree to which the node belongs. -/
  tree : Tree
  /-- The place of the node in the arena. -/
  id : Nat

/-- A stored entry, as seen from outside: a node or a value. -/
inductive Entry where
  /-- A node. -/
  | node (node : Node)
  /-- A value. -/
  | value (value : Value)

namespace Tree

/-- The topmost node. -/
def top (tree : Tree) : Node :=
  ⟨tree, tree.root⟩

/-- The node with the given number. -/
def node? (tree : Tree) (id : Nat) : Option Node :=
  if id < tree.nodes.size then some ⟨tree, id⟩ else none

/-- The number of nodes. -/
def nodeCount (tree : Tree) : Nat :=
  tree.nodes.size

/-- The entry in a slot. -/
def entry (tree : Tree) : Slot → Entry
  | .node id => .node ⟨tree, id⟩
  | .value value => .value value

end Tree

namespace Node

/-- The stored form of the node. -/
def data (node : Node) : NodeData :=
  node.tree.nodes.data node.id

/-- What the keys of the node are. -/
def level (node : Node) : Level :=
  node.data.level

/-- The normalized keys, in insertion order. -/
def keys (node : Node) : List String :=
  node.data.entries.keys

/-- The number of entries. -/
def size (node : Node) : Nat :=
  node.data.entries.length

/-- The keys with their entries, in insertion order. -/
def toList (node : Node) : List (String × Entry) :=
  node.data.entries.map fun (key, slot) => (key, node.tree.entry slot)

/-- The entry stored under a key. -/
def getRaw? (node : Node) (key : String) : Option Entry :=
  (node.tree.nodes.slot? node.id key).map node.tree.entry

/-- Whether the node has the key. -/
def contains (node : Node) (key : String) : Bool :=
  (node.getRaw? key).isSome

/-- The enclosing node. -/
def parent? (node : Node) : Option Node :=
  (node.tree.nodes.parent? node.id).map fun id => ⟨node.tree, id⟩

/-- The topmost node above the node. -/
def top (node : Node) : Node :=
  ⟨node.tree, node.tree.nodes.topOf node.id⟩

/-- The keys that lead from the topmost node to the key of this node. -/
def fullKey (node : Node) (key : String) : List String :=
  node.tree.nodes.fullKey node.id key

/-- A line that identifies the node: its place, its level and its keys. -/
def summary (node : Node) : String :=
  "Node \x7b id: NodeId(" ++ toString node.id ++ "), level: " ++ node.level.title ++ ", keys: ["
    ++ Text.joined ", " (node.keys.map Text.quoted) ++ "] \x7d"

/-- The dotted path of a key of this node. -/
def pathOf (node : Node) (key : String) : String :=
  Text.dotted (node.fullKey key)

end Node

end ConfigTree
