import ConfigTree.Options
import ConfigTree.Proofs.Runs
import ConfigTree.Proofs.Tree.Links
import ConfigTree.Tree.Change

set_option relaxedAutoImplicit false
set_option autoImplicit false

/-!
# Attempts to change a built tree

The cell for the parent of a node can be written once. Building a tree writes the cell of every node,
that of the root included, so that an attempt to write one of them comes too late. All attempts to
change a built tree are therefore refused, and they leave no trace in it.

## Main definitions

* `ConfigTree.Tree.attempt`, `ConfigTree.Tree.attempts` — what attempts return, and the tree after
  them.
* `ConfigTree.Tree.Change.refusal` — the error with which an attempt is refused.
* `ConfigTree.Tree.Sealed` — all cells of the tree are written.

## Main results

* `ConfigTree.Tree.attempt_setParent_of_empty` — a cell that is empty is written.
* `ConfigTree.Tree.sealed_of_build` — building a tree writes all of its cells.
* `ConfigTree.Tree.build_unchangeable` — a built tree refuses all attempts and stays as it is.

## Implementation notes

Nothing in an attempt itself keeps a tree from being changed: a single empty cell can be written, and
is then found written by the attempts that follow. The tree is therefore passed on from one attempt
to the next.
-/

namespace ConfigTree

/-! ## Cells that are written once -/

namespace Arena

variable {arena nodes : Arena} {id : ℕ} {parent : Option ℕ}

/-- At each place of the arena stands its node. -/
lemma getElem?_of_lt (hid : id < arena.size) : arena[id]? = some (arena.data id) := by
  rw [data, Array.getD_eq_getD_getElem?, Array.getElem?_eq_getElem hid, Option.getD_some]

/-- A cell that is written stays as it is. -/
lemma assignParent_of_written (hid : id < arena.size) {written : Option ℕ}
    (hcell : (arena.data id).parent = some written) (parent : Option ℕ) :
    arena.assignParent id parent =
      .error (Error.readOnly.withHelp "The parent of a config node can only be set once") := by
  have hnode : arena[id] = arena.data id :=
    Option.some.inj ((Array.getElem?_eq_getElem hid).symm.trans (getElem?_of_lt hid))
  simp only [assignParent, hid, dite_true, hnode, hcell]

/-- A cell that was just written holds what was written. -/
lemma parent_of_assignParent (h : arena.assignParent id parent = .ok nodes)
    (hid : id < nodes.size) : (nodes.data id).parent = some parent := by
  unfold assignParent at h
  split at h
  · split at h
    · obtain rfl := Except.ok.inj h
      simp [data, Array.getD_eq_getD_getElem?, *]
    · simp at h
  · obtain rfl := Except.ok.inj h
    contradiction

end Arena

namespace Tree

/-! ## Attempts, one after the other -/

/-- What an attempt returns, and the tree after it. An attempt that is refused leaves the tree as it
is. -/
def attempt (tree : Tree) (change : Change) : Except Error Unit × Tree :=
  match tree.apply change with
  | .ok after => (.ok (), after)
  | .error e => (.error e, tree)

/-- What some attempts return, one after the other, and the tree after all of them. -/
def attempts (tree : Tree) : List Change → List (Except Error Unit) × Tree
  | [] => ([], tree)
  | change :: rest =>
    let (result, after) := tree.attempt change
    let (results, last) := after.attempts rest
    (result :: results, last)

/-- The node that an attempt is made on. -/
def Change.target : Change → ℕ
  | .set id _ _ | .delete id _ | .setParent id _ => id

/-- The error with which an attempt is refused. -/
def Change.refusal : Change → Error
  | .set _ _ _ | .delete _ _ => .readOnly
  | .setParent _ _ => Error.readOnly.withHelp "The parent of a config node can only be set once"

/-- Every attempt is refused because the tree cannot be changed. -/
lemma Change.kind_refusal (change : Change) : change.refusal.kind = .readOnly := by
  cases change <;> rfl

/-- All cells for parents are written. -/
def Sealed (tree : Tree) : Prop :=
  ∀ id < tree.nodeCount, ∃ parent, (tree.nodes.data id).parent = some parent

/-! ## One attempt -/

variable {tree : Tree}

/-- **A cell that is empty** is written, with the parent that is given. -/
lemma attempt_setParent_of_empty {id : ℕ} (hid : id < tree.nodeCount)
    (hempty : (tree.nodes.data id).parent = none) (parent : Option ℕ) :
    ∃ after, tree.attempt (.setParent id parent) = (.ok (), after) ∧
      (after.nodes.data id).parent = some parent := by
  have hcell : tree.nodes[id]? =
      some ⟨(tree.nodes.data id).level, (tree.nodes.data id).entries, none⟩ := by
    rw [← hempty]
    exact Arena.getElem?_of_lt hid
  obtain ⟨nodes, hassign, -, -, hwritten⟩ := Arena.assignParent_of_empty hcell parent
  refine ⟨{ tree with nodes := nodes }, ?_, ?_⟩
  · rw [attempt, apply, hassign]
    rfl
  · rw [Arena.data_of_getElem? hwritten]

/-- **An attempt to change a sealed tree** is refused, and the tree stays as it is. -/
lemma Sealed.attempt_eq (h : tree.Sealed) {change : Change}
    (htarget : change.target < tree.nodeCount) :
    tree.attempt change = (.error change.refusal, tree) := by
  cases change with
  | set id key value => rfl
  | delete id key => rfl
  | setParent id parent =>
    have hid : id < tree.nodeCount := htarget
    obtain ⟨written, hcell⟩ := h id hid
    rw [attempt, apply, Arena.assignParent_of_written hid hcell]
    rfl

/-- **Attempts to change a sealed tree** are all refused.

**Proof sketch.** Induction on the attempts. The tree after each of them is the sealed tree again. -/
lemma Sealed.attempts_eq (h : tree.Sealed) {changes : List Change}
    (htargets : ∀ change ∈ changes, change.target < tree.nodeCount) :
    tree.attempts changes = (changes.map fun change => .error change.refusal, tree) := by
  induction changes with
  | nil => rfl
  | cons change rest ih =>
    obtain ⟨htarget, hrest⟩ := List.forall_mem_cons.mp htargets
    simp only [attempts, h.attempt_eq htarget, ih hrest, List.map_cons]

/-! ## Built trees -/

/-- **Building a tree writes all cells.** The cell of the root is the last one.

**Proof sketch.** Every node but the root has a parent, which stands in its cell. That the root has
none is written when the tree is complete. -/
lemma sealed_of_build {treatment : Treatment} {mapping : Mapping} {label : String} {depth : ℕ}
    (hbuild : build treatment mapping label depth = .ok tree) : tree.Sealed := by
  intro id hid
  have h := represents_of_build hbuild
  have hroot : id < tree.root ∨ id = tree.root := by
    rw [nodeCount, h.size_eq] at hid
    omega
  rcases hroot with hlt | rfl
  · obtain ⟨parent, hparent, -⟩ := h.holds.exists_parent (Nat.zero_le id) hlt
    exact ⟨some parent, Option.join_eq_some_iff.mp hparent⟩
  · obtain ⟨⟨arena, root⟩, -, hbuild⟩ := bind_eq_ok_iff.mp hbuild
    obtain ⟨nodes, hassign, hbuild⟩ := bind_eq_ok_iff.mp hbuild
    obtain rfl := Except.ok.inj hbuild
    exact ⟨none, Arena.parent_of_assignParent hassign hid⟩

/-- **A built tree cannot be changed.** Whatever values are set, keys deleted and parents assigned at
its nodes, in any number and order, each of these attempts is refused because the tree is read-only,
and the tree after all of them is the tree before them, in its levels, its entries and all cells for
parents.

**Proof sketch.** Building writes all cells (`sealed_of_build`), and a sealed tree stays the same
from one attempt to the next (`Sealed.attempts_eq`). -/
theorem build_unchangeable {treatment : Treatment} {mapping : Mapping} {label : String} {depth : ℕ}
    (hbuild : build treatment mapping label depth = .ok tree) (changes : List Change)
    (htargets : ∀ change ∈ changes, change.target < tree.nodeCount) :
    tree.attempts changes = (changes.map fun change => .error change.refusal, tree) ∧
      ∀ change ∈ changes, change.refusal.kind = .readOnly :=
  ⟨(sealed_of_build hbuild).attempts_eq htargets, fun change _ => change.kind_refusal⟩

/-- A section is to lose its name, and the root and the node below it are to get parents. -/
theorem unchangeable_section :
    ∃ tree, build ({} : Options).treatment [("A", .mapping [])] "ROOT" 0 = .ok tree ∧
      tree.attempts [.delete 1 "a", .setParent 1 none, .setParent 0 (some 1)] =
        ([.error .readOnly, .error (Change.setParent 1 none).refusal,
          .error (Change.setParent 0 (some 1)).refusal], tree) := by
  have hbuild : build ({} : Options).treatment [("A", .mapping [])] "ROOT" 0 =
      .ok ⟨#[⟨.subsections, [], some (some 1)⟩, ⟨.sections, [("a", .node 0)], some none⟩], 1,
        ({} : Options).treatment⟩ := rfl
  exact ⟨_, hbuild, (build_unchangeable hbuild
    [.delete 1 "a", .setParent 1 none, .setParent 0 (some 1)] (by decide)).1⟩

/-- A tree whose only cell is empty takes the first parent, and refuses the second. -/
example (treatment : Treatment) :
    (Tree.mk #[⟨.sections, [], none⟩] 0 treatment).attempts
        [.setParent 0 none, .setParent 0 (some 0)] =
      ([.ok (), .error (Change.setParent 0 (some 0)).refusal],
        ⟨#[⟨.sections, [], some none⟩], 0, treatment⟩) := rfl

end Tree

end ConfigTree
