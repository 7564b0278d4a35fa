import ConfigTree.Tree.Change

set_option relaxedAutoImplicit false
set_option autoImplicit false

/-!
# Building trees

A nested mapping becomes a tree in one pass, entry by entry and depth first. A node is added to the
arena when all of its entries are there, and only then are its children given their parent.

Two mistakes are found on the way: a mapping below the last level, and two keys of one mapping that
are the same key. Mistakes inside an entry come before a clash of that entry's own key.

## Main definitions

* `ConfigTree.Arena.claim` — the check that a key is not taken.
* `ConfigTree.Tree.place`, `ConfigTree.Tree.placeAll` — turn a value and a mapping into slots.
* `ConfigTree.Tree.build` — the tree of a nested mapping.
-/

namespace ConfigTree

open Text (quoted joined dotted)

namespace Arena

/-- How the content of a slot is described in the error about a clash of keys. -/
def describe (arena : Arena) : Slot → String
  | .node id => "\x7b" ++ joined ", " (arena.data id).entries.keys ++ "\x7d"
  | .value (.string text) => quoted text
  | .value value => value.toLiteral

/-- Checks that a key of the node at `path` is not among the entries yet. -/
def claim (arena : Arena) (level : Level) (path : List String) (entries : Table Slot)
    (key : String) : Except Error Unit :=
  match entries.get? (normalizeKey key) with
  | some existing =>
    .error (.duplicateKey level (dotted (path ++ [key])) (arena.describe existing))
  | none => .ok ()

end Arena

namespace Tree

/-- What the error about a mapping below the last level calls that mapping. -/
def headerOf (label : String) (path : List String) : String :=
  if path.isEmpty then label else dotted path

/-- Adds a node at `depth` whose entries `contents` makes, unless there is no such level. -/
def openNode (header : String) (depth : Nat) (contents : Unit → Except Error (Arena × Table Slot)) :
    Except Error (Arena × Nat) :=
  if depth < maxLevel then
    contents () >>= fun (arena, entries) => arena.close (Level.ofDepth depth) entries
  else .error (.maxLevelExceeded header maxLevel)

mutual

/-- Puts a value at `path` into a slot. A mapping becomes a node at `depth`. -/
def place (store : Value → Value) (label : String) (path : List String) (depth : Nat)
    (arena : Arena) : Value → Except Error (Arena × Slot)
  | .mapping entries =>
    (openNode (headerOf label path) depth fun _ =>
      placeAll store label path depth arena [] entries).map fun (arena, id) => (arena, .node id)
  | value => .ok (arena, .value (store value))

/-- Puts the entries of the mapping at `path` into slots, after those that are there. -/
def placeAll (store : Value → Value) (label : String) (path : List String) (depth : Nat)
    (arena : Arena) (entries : Table Slot) : List (String × Value) → Except Error (Arena × Table Slot)
  | [] => .ok (arena, entries)
  | (key, value) :: rest =>
    place store label (path ++ [key]) (depth + 1) arena value >>= fun (arena, slot) =>
      arena.claim (Level.ofDepth depth) path entries key >>= fun _ =>
        placeAll store label path depth arena (entries ++ [(normalizeKey key, slot)]) rest

end

/-- The tree of a nested mapping whose top stands at `depth`; errors call the top `label`. -/
def build (treatment : Treatment) (mapping : Mapping) (label : String) (depth : Nat) :
    Except Error Tree := do
  let (arena, root) ← openNode label depth fun _ =>
    placeAll treatment.store label [] depth #[] [] mapping
  let nodes ← arena.assignParent root none
  return ⟨nodes, root, treatment⟩

end Tree

end ConfigTree
