import Mathlib.Logic.Relation
import ConfigTree.Proofs.Tree.Descent

set_option relaxedAutoImplicit false
set_option autoImplicit false

/-!
# The links of a built tree

The links to children and the links to parents of a built tree say the same, and they go to earlier
and to later nodes. Every node is found from the root in one way, and the way up from it ends there.

## Main definitions

* `ConfigTree.Arena.Below` — a node stands below another one or is this one.
* `ConfigTree.Tree.WellLinked` — the links make a tree, with children before their parents.

## Main results

* `ConfigTree.Tree.build_wellLinked` — built trees are well linked, and no link fails to be set.

## Implementation notes

All parts follow from what the node at each place holds (`Arena.Holds`): it is the parent of its
children, and the places between its first one and its own are those of the nodes inside it.
-/

namespace ConfigTree

open Arena (children)

namespace Arena

/-- The first node stands somewhere below the second one, or is this one. -/
def Below (arena : Arena) : ℕ → ℕ → Prop :=
  Relation.ReflTransGen fun child parent => arena.parent? child = some parent

variable {arena : Arena} {id : ℕ}

/-- Beyond the end of the arena there is only a default node. -/
lemma data_of_size_le (h : arena.size ≤ id) : arena.data id = default := by
  rw [data, Array.getD_eq_getD_getElem?, Array.getElem?_eq_none h, Option.getD_none]

/-- Only a node of the arena has children. -/
lemma lt_of_mem_children {p : ℕ} (h : id ∈ children (arena.data p).entries) : p < arena.size := by
  by_contra hp
  rw [data_of_size_le (Nat.le_of_not_lt hp)] at h
  exact absurd h List.not_mem_nil

/-- Only a node of the arena has a parent. -/
lemma lt_of_parent?_eq_some {p : ℕ} (h : arena.parent? id = some p) : id < arena.size := by
  by_contra hid
  rw [parent?, data_of_size_le (Nat.le_of_not_lt hid)] at h
  exact absurd h (by simp [default])

end Arena

namespace Tree

/-- The links of the tree make it a tree: root last, children before their parents, links up and
down in agreement. -/
structure WellLinked (tree : Tree) : Prop where
  /-- The root is the last node. -/
  nodeCount_eq : tree.nodeCount = tree.root + 1
  /-- The root has no parent. -/
  parent?_top : tree.top.parent? = none
  /-- Every other node has a parent, which comes later. -/
  exists_parent : ∀ id < tree.root,
    ∃ parent, tree.nodes.parent? id = some parent ∧ id < parent ∧ parent ≤ tree.root
  /-- A node occurs once among the entries of its parent, and not among those of other nodes. -/
  count_children : ∀ id p, (children (tree.nodes.data p).entries).count id =
    if tree.nodes.parent? id = some p then 1 else 0
  /-- A node stands one level below its parent. -/
  level_of_parent : ∀ id p, tree.nodes.parent? id = some p → ∃ depth, depth + 1 < maxLevel ∧
    (tree.nodes.data p).level = Level.ofDepth depth ∧
    (tree.nodes.data id).level = Level.ofDepth (depth + 1)
  /-- A node and those below it take up consecutive places, of which the node has the last one. -/
  exists_stretch : ∀ id < tree.nodeCount,
    ∃ lo ≤ id, ∀ i, tree.nodes.Below i id ↔ lo ≤ i ∧ i ≤ id
  /-- One list of normalized keys leads from the root to a node. -/
  exists_keys : ∀ id < tree.nodeCount, ∃ keys : List String, keys.map normalizeKey = keys ∧
    ∀ path, tree.top.walk path = .ok ⟨tree, id⟩ ↔ path.map normalizeKey = keys
  /-- The way up from a node ends at the root. -/
  top_eq : ∀ id < tree.nodeCount, (Node.mk tree id).top = tree.top

namespace Represents

variable {tree : Tree} {treatment : Treatment} {depth : ℕ} {mapping : Mapping}

/-- A child of a node has it for its parent, comes before it, and stands one level below it. -/
lemma parent?_eq_some_of_mem_children (h : tree.Represents treatment depth mapping) {id p : ℕ}
    (hmem : id ∈ children (tree.nodes.data p).entries) :
    tree.nodes.parent? id = some p ∧ id < p ∧ ∃ d, d + 1 < maxLevel ∧
      (tree.nodes.data p).level = Level.ofDepth d ∧
      (tree.nodes.data id).level = Level.ofDepth (d + 1) := by
  obtain ⟨path, inner, _, _, -, -, hholds⟩ := h.exists_holds (Arena.lt_of_mem_children hmem)
  obtain ⟨lo', inner', -, hlt, hchild⟩ := hholds.of_mem_children hmem
  exact ⟨hchild.parent_eq, hlt, _, hchild.depth_lt, hholds.level_eq, hchild.level_eq⟩

/-- The links up and down say the same. -/
lemma parent?_eq_some_iff (h : tree.Represents treatment depth mapping) {id p : ℕ} :
    tree.nodes.parent? id = some p ↔ id ∈ children (tree.nodes.data p).entries := by
  refine ⟨fun hparent => ?_, fun hmem => (h.parent?_eq_some_of_mem_children hmem).1⟩
  have hid := Arena.lt_of_parent?_eq_some hparent
  have hroot : id < tree.root := by
    rcases Nat.lt_or_eq_of_le (show id ≤ tree.root by rw [h.size_eq] at hid; omega) with hlt | rfl
    · exact hlt
    · rw [h.holds.parent_eq] at hparent
      exact absurd hparent (by simp)
  obtain ⟨p', hparent', -, -, hmem⟩ := h.holds.exists_parent (Nat.zero_le id) hroot
  obtain rfl : p = p' := Option.some.inj (hparent.symm.trans hparent')
  exact hmem

/-- **The nodes below a node** are those of its stretch.

**Proof sketch.** From left to right, step by step up to the node: the children of a node come after
the start of its stretch. From right to left by induction on the distance to the node. -/
lemma below_iff (h : tree.Represents treatment depth mapping) {parent : Option ℕ} {lo id d : ℕ}
    {inner : Mapping} (hholds : Arena.Holds treatment.store tree.nodes parent lo id d inner)
    (i : ℕ) : tree.nodes.Below i id ↔ lo ≤ i ∧ i ≤ id := by
  constructor
  · intro hbelow
    induction hbelow using Relation.ReflTransGen.head_induction_on with
    | refl => exact ⟨hholds.stores.le, Nat.le_refl _⟩
    | @head i p hparent _ ih =>
      have hmem := h.parent?_eq_some_iff.mp hparent
      obtain ⟨_, _, _, lo', -, -, hle, hp⟩ := hholds.exists_reaches ih.1 ih.2
      obtain ⟨lo'', _, hle', hlt, hi⟩ := hp.of_mem_children hmem
      have := hi.stores.le
      omega
  · rintro ⟨hlo, hi⟩
    induction hn : id - i using Nat.strongRecOn generalizing i with
    | _ n ih =>
      rcases Nat.lt_or_eq_of_le hi with hlt | rfl
      · obtain ⟨p, hparent, hip, hp, -⟩ := hholds.exists_parent hlo hlt
        exact .head hparent (ih (id - p) (by omega) p (by omega) hp rfl)
      · exact .refl

/-- The way up from a node ends at the root. -/
lemma topOf_eq (h : tree.Represents treatment depth mapping) {id : ℕ} (hid : id ≤ tree.root) :
    tree.nodes.topOf id = tree.root := by
  induction hn : tree.root - id using Nat.strongRecOn generalizing id with
  | _ n ih =>
    rcases Nat.lt_or_eq_of_le hid with hlt | rfl
    · obtain ⟨p, hparent, hip, hp, -⟩ := h.holds.exists_parent (Nat.zero_le id) hlt
      have hsize : p < tree.nodes.size := by
        rw [h.size_eq]
        omega
      rw [Arena.topOf, hparent]
      simp only [hip, hsize, and_self, dite_true]
      exact ih (tree.root - p) (by omega) hp rfl
    · rw [Arena.topOf, h.holds.parent_eq]

/-- **The links of a built tree** make it a tree. -/
lemma wellLinked (h : tree.Represents treatment depth mapping) : tree.WellLinked where
  nodeCount_eq := h.size_eq
  parent?_top := by
    rw [Node.parent?, top, h.holds.parent_eq, Option.map_none]
  exists_parent id hid := by
    obtain ⟨p, hparent, hip, hp, -⟩ := h.holds.exists_parent (Nat.zero_le id) hid
    exact ⟨p, hparent, hip, hp⟩
  count_children id p := by
    split
    · rename_i hparent
      have hmem := h.parent?_eq_some_iff.mp hparent
      obtain ⟨_, _, _, _, -, -, hp⟩ := h.exists_holds (Arena.lt_of_mem_children hmem)
      exact List.count_eq_one_of_mem hp.nodup_children hmem
    · rename_i hparent
      exact List.count_eq_zero.mpr fun hmem => hparent (h.parent?_eq_some_iff.mpr hmem)
  level_of_parent id p hparent :=
    (h.parent?_eq_some_of_mem_children (h.parent?_eq_some_iff.mp hparent)).2.2
  exists_stretch id hid := by
    obtain ⟨_, _, _, lo, -, -, hholds⟩ := h.exists_holds hid
    exact ⟨lo, hholds.stores.le, h.below_iff hholds⟩
  exists_keys id hid :=
    ⟨tree.nodes.keysTo id, h.map_normalizeKey_keysTo hid, fun _ => h.walk_top_iff hid⟩
  top_eq id hid := by
    have hroot : id ≤ tree.root := by
      rw [nodeCount, h.size_eq] at hid
      omega
    rw [Node.top, h.topOf_eq hroot, top]

end Represents

/-- **Built trees are well linked**, and building never fails because the parent of a node is set
already: the only errors are those about the faults of the mapping.

**Proof sketch.** A built tree represents its mapping, and all the links follow from that. An error
is the first fault of the mapping (`decides_build`), and no fault is of that kind. -/
theorem build_wellLinked (treatment : Treatment) (mapping : Mapping) (label : String) (depth : ℕ) :
    (∀ tree, build treatment mapping label depth = .ok tree → tree.WellLinked) ∧
    ∀ e, build treatment mapping label depth = .error e → e.kind ≠ .readOnly := by
  refine ⟨fun tree hbuild => (represents_of_build hbuild).wellLinked, fun e hbuild => ?_⟩
  have hhead := ((decides_build label treatment mapping depth).eq_error_iff e).mp hbuild
  have hkind := Mapping.kind_of_mem_faultsAt treatment.store label depth mapping
    (List.mem_of_mem_head? hhead)
  rcases hkind with ⟨header, hkind⟩ | ⟨level, key, existing, hkind⟩ <;> simp [hkind]

end Tree

end ConfigTree
