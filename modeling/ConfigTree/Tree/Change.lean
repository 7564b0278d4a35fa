import ConfigTree.Tree.Basic

set_option relaxedAutoImplicit false
set_option autoImplicit false

/-!
# Changes of a tree

While a tree is built, nodes are added to its arena. A node is added with all of its entries, and
only then are its children given their parent, each of them once.

A tree that is built stays as it is. Setting or deleting a key is refused outright; assigning a
parent is refused because the cell for it is already assigned.

## Main definitions

* `ConfigTree.Arena.assignParent` — assigns the parent of a node, once.
* `ConfigTree.Arena.close` — adds a node with finished entries and links its children.
* `ConfigTree.Tree.Change` — the attempts to change a tree.
* `ConfigTree.Tree.apply` — the outcome of an attempt: the tree after it, if it is not refused.
-/

namespace ConfigTree

/-! ## Growing arenas -/

/-- The child node in a slot. -/
def Slot.child? : Slot → Option Nat
  | .node id => some id
  | .value _ => none

namespace Arena

/-- Assigns the parent of a node. The cell for it can be assigned only once. -/
def assignParent (arena : Arena) (id : Nat) (parent : Option Nat) : Except Error Arena :=
  if h : id < arena.size then
    match arena[id].parent with
    | none => .ok (arena.set id { arena[id] with parent := some parent })
    | some _ =>
      .error (Error.readOnly.withHelp "The parent of a config node can only be set once")
  else .ok arena

/-- The nodes among the entries, in order. -/
def children (entries : Table Slot) : List Nat :=
  entries.filterMap fun (_, slot) => slot.child?

/-- Makes the node `parent` the parent of each of the nodes `ids`. -/
def adopt (parent : Nat) (ids : List Nat) (arena : Arena) : Except Error Arena :=
  ids.foldlM (fun (linked : Arena) id => linked.assignParent id (some parent)) arena

/-- Adds a node with the given entries and makes it the parent of the nodes among them. -/
def close (arena : Arena) (level : Level) (entries : Table Slot) : Except Error (Arena × Nat) :=
  (adopt arena.size (children entries) (arena.push ⟨level, entries, none⟩)).map
    fun linked => (linked, arena.size)

end Arena

/-! ## Attempts to change a tree -/

namespace Tree

/-- An attempt to change the node `id` of a tree. -/
inductive Change where
  /-- Puts a value under a key. -/
  | set (id : Nat) (key : String) (value : Value)
  /-- Removes a key. -/
  | delete (id : Nat) (key : String)
  /-- Assigns the parent, or the absence of one. -/
  | setParent (id : Nat) (parent : Option Nat)

/-- The tree after an attempt to change it, unless the attempt is refused. -/
def apply (tree : Tree) : Change → Except Error Tree
  | .set _ _ _ => .error .readOnly
  | .delete _ _ => .error .readOnly
  | .setParent id parent =>
    (tree.nodes.assignParent id parent).map fun nodes => { tree with nodes := nodes }

end Tree

end ConfigTree
