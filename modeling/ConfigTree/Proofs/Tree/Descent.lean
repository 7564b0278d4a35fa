import Mathlib.Data.List.Nodup
import ConfigTree.Config.Basic
import ConfigTree.Proofs.Runs
import ConfigTree.Proofs.Text.Lowercase
import ConfigTree.Proofs.Tree.Storage

set_option relaxedAutoImplicit false
set_option autoImplicit false

/-!
# The ways down a tree

A list of keys leads from a node down to another one. This file relates these ways to the paths into
the mapping that the node stores, to the walk that a look-up makes, and to the keys that one finds on
the way back up.

## Main definitions

* `ConfigTree.Arena.Keeps` — an entry of a mapping in an entry of a node.
* `ConfigTree.Arena.Leads` — keys that lead from a node down to a node.

## Main results

* `ConfigTree.Node.walk_eq_ok_iff` — a walk arrives exactly where its keys lead.
* `ConfigTree.Arena.Holds.exists_leads` — a path to a mapping leads to a node that holds it.
* `ConfigTree.Arena.Holds.exists_reaches` — every node in the stretch of a node is found that way.
* `ConfigTree.Arena.Holds.keysTo_of_leads` — on the way back up one finds the same keys, normalized.
-/

namespace ConfigTree

open Mapping (Reaches)

namespace Arena

/-! ## One step down -/

/-- A look-up does not depend on the spelling of the key. -/
lemma slot?_normalizeKey (arena : Arena) (id : ℕ) (key : String) :
    arena.slot? id (normalizeKey key) = arena.slot? id key := by
  rw [slot?, slot?, normalizeKey_normalizeKey]

section

variable (store : Value → Value) (arena : Arena)

/-- The second entry is what a node `parent` at `depth` keeps of the first one: a value, or a child
with its stretch between `lo` and `hi`. -/
inductive Keeps (parent depth lo hi : ℕ) : String × Value → String × Slot → Prop where
  /-- A value that is no mapping is kept in its stored form. -/
  | leaf {key : String} {value : Value} (hvalue : value.asMapping? = none) :
      Keeps parent depth lo hi (key, value) (normalizeKey key, .value (store value))
  /-- A mapping is kept in a child. -/
  | node {key : String} {inner : Mapping} {lo' child : ℕ} (hlo : lo ≤ lo') (hhi : child < hi)
      (hchild : Holds store arena (some parent) lo' child (depth + 1) inner) :
      Keeps parent depth lo hi (key, .mapping inner) (normalizeKey key, .node child)

end

variable {store : Value → Value} {arena : Arena} {parent : Option ℕ} {lo hi id depth : ℕ}
  {mapping : Mapping} {slots : Table Slot}

/-- The entries of a node keep those of its mapping, one by one. -/
lemma Stores.forall₂ {cell : Option (Option ℕ)}
    (h : Stores store arena cell depth lo mapping slots hi) (hcell : cell = some (some id)) :
    List.Forall₂ (Keeps store arena id depth lo hi) mapping slots := by
  induction h with
  | nil => exact .nil
  | leaf hvalue _ ih => exact .cons (.leaf hvalue) (ih hcell)
  | node hdepth hinner hkeys hdata hrest _ ih =>
    subst hcell
    have hlo := hinner.le
    have hhi := hrest.le
    refine .cons (.node (Nat.le_refl _) (by omega) (holds_of_getElem? hdata hdepth hkeys hinner)) ?_
    refine (ih rfl).imp fun entry slot hkeeps => ?_
    cases hkeeps with
    | leaf hvalue => exact .leaf hvalue
    | node hlo' hhi' hchild => exact .node (by omega) hhi' hchild

/-- Every place of the stretch belongs to one of the children. -/
lemma Stores.exists_child {cell : Option (Option ℕ)}
    (h : Stores store arena cell depth lo mapping slots hi) (hcell : cell = some (some id)) {i : ℕ}
    (hlo : lo ≤ i) (hhi : i < hi) :
    ∃ key inner lo' child, (key, .mapping inner) ∈ mapping ∧
      (normalizeKey key, .node child) ∈ slots ∧ lo ≤ lo' ∧ lo' ≤ i ∧ i ≤ child ∧ child < hi ∧
      Holds store arena (some id) lo' child (depth + 1) inner := by
  induction h with
  | nil => omega
  | leaf _ _ ih =>
    obtain ⟨key, inner, lo', child, hmem, hslot, hbounds⟩ := ih hcell hlo hhi
    exact ⟨key, inner, lo', child, List.mem_cons_of_mem _ hmem, List.mem_cons_of_mem _ hslot,
      hbounds⟩
  | @node _ _ lo child hi key inner _ _ _ hdepth hinner hkeys hdata hrest _ ih =>
    have hhi' := hrest.le
    by_cases hi' : i ≤ child
    · subst hcell
      exact ⟨key, inner, lo, child, List.mem_cons_self, List.mem_cons_self, Nat.le_refl _, hlo, hi',
        by omega, holds_of_getElem? hdata hdepth hkeys hinner⟩
    · have hlo' := hinner.le
      obtain ⟨key, inner, lo', child', hmem, hslot, hle, hbounds⟩ := ih hcell (by omega) hhi
      exact ⟨key, inner, lo', child', List.mem_cons_of_mem _ hmem, List.mem_cons_of_mem _ hslot,
        by omega, hbounds⟩

/-- The children of a node are in ascending order. -/
lemma Stores.pairwise_children {cell : Option (Option ℕ)}
    (h : Stores store arena cell depth lo mapping slots hi) :
    (children slots).Pairwise (· < ·) ∧ ∀ child ∈ children slots, lo ≤ child := by
  induction h with
  | nil => exact ⟨.nil, by simp [children]⟩
  | leaf _ _ ih => exact ih
  | @node _ _ lo id _ _ _ _ _ slots _ hinner _ _ _ _ ih =>
    have hlo := hinner.le
    have heq : ∀ key, children ((key, .node id) :: slots) = id :: children slots := fun _ => rfl
    rw [heq, List.pairwise_cons]
    refine ⟨⟨fun child hchild => ?_, ih.1⟩, fun child hchild => ?_⟩
    · have := ih.2 child hchild
      omega
    · rcases List.mem_cons.mp hchild with rfl | hchild
      · exact hlo
      · have := ih.2 child hchild
        omega

/-- The children are the nodes in the slots. -/
lemma mem_children_iff {child : ℕ} : child ∈ children slots ↔ ∃ key, (key, .node child) ∈ slots := by
  simp only [children, List.mem_filterMap, Prod.exists]
  constructor
  · rintro ⟨key, slot, hmem, hslot⟩
    cases slot with
    | node id =>
      obtain rfl : id = child := by simpa [Slot.child?] using hslot
      exact ⟨key, hmem⟩
    | value value => simp [Slot.child?] at hslot
  · rintro ⟨key, hmem⟩
    exact ⟨key, .node child, hmem, rfl⟩

namespace Holds

/-- The children of a node are distinct. -/
lemma nodup_children (h : Holds store arena parent lo id depth mapping) :
    (children (arena.data id).entries).Nodup :=
  h.stores.pairwise_children.1.imp Nat.ne_of_lt

/-- A key finds exactly the slot that stands under its normalized form. -/
lemma slot?_eq_some_iff (h : Holds store arena parent lo id depth mapping) {key : String}
    {slot : Slot} :
    arena.slot? id key = some slot ↔ (normalizeKey key, slot) ∈ (arena.data id).entries :=
  Table.get?_eq_some_iff_mem h.nodup_keys

/-- What a node holds under a key of its mapping is what it keeps of that entry. -/
lemma exists_slot (h : Holds store arena parent lo id depth mapping) {key : String} {value : Value}
    (hmem : (key, value) ∈ mapping) :
    ∃ slot, arena.slot? id key = some slot ∧
      Keeps store arena id depth lo id (key, value) (normalizeKey key, slot) := by
  obtain ⟨⟨k, slot⟩, hslot, hkeeps⟩ := (exists_of_forall₂ (h.stores.forall₂ rfl)).1 _ hmem
  obtain rfl : k = normalizeKey key := by cases hkeeps <;> rfl
  exact ⟨slot, h.slot?_eq_some_iff.mpr hslot, hkeeps⟩

/-- A node is the parent of its children, and they hold mappings inside its own one. -/
lemma of_mem_children (h : Holds store arena parent lo id depth mapping) {child : ℕ}
    (hchild : child ∈ children (arena.data id).entries) :
    ∃ lo' inner, lo ≤ lo' ∧ child < id ∧
      Holds store arena (some id) lo' child (depth + 1) inner := by
  obtain ⟨key, hslot⟩ := mem_children_iff.mp hchild
  obtain ⟨entry, -, hkeeps⟩ := (exists_of_forall₂ (h.stores.forall₂ rfl)).2 _ hslot
  cases hkeeps with
  | node hlo hhi hchild => exact ⟨_, _, hlo, hhi, hchild⟩

/-- What a key of a node leads to is a child of this node, which holds a mapping inside its own one.
-/
lemma of_slot? (h : Holds store arena parent lo id depth mapping) {key : String} {child : ℕ}
    (hslot : arena.slot? id key = some (.node child)) :
    ∃ lo' inner, lo ≤ lo' ∧ child < id ∧
      Holds store arena (some id) lo' child (depth + 1) inner :=
  h.of_mem_children (mem_children_iff.mpr ⟨_, h.slot?_eq_some_iff.mp hslot⟩)

end Holds

/-! ## Keys that lead down -/

/-- The keys, in any spelling, lead from one node down to another. -/
inductive Leads (arena : Arena) : ℕ → List String → ℕ → Prop where
  /-- No keys lead to the node itself. -/
  | here (id : ℕ) : Leads arena id [] id
  /-- A key of the node leads to a child, and further keys from there further down. -/
  | step {id child target : ℕ} {key : String} {path : List String}
      (hslot : arena.slot? id key = some (.node child)) (hlead : Leads arena child path target) :
      Leads arena id (key :: path) target

/-- The spelling of the keys does not matter for where they lead. -/
lemma leads_map_normalizeKey_iff {path : List String} {target : ℕ} :
    Leads arena id (path.map normalizeKey) target ↔ Leads arena id path target := by
  induction path generalizing id with
  | nil => exact ⟨fun h => by cases h; exact .here _, fun h => by cases h; exact .here _⟩
  | cons key path ih =>
    constructor
    · intro h
      cases h with
      | step hslot hlead =>
        rw [slot?_normalizeKey] at hslot
        exact .step hslot (ih.mp hlead)
    · intro h
      cases h with
      | step hslot hlead =>
        rw [← slot?_normalizeKey] at hslot
        exact .step hslot (ih.mpr hlead)

namespace Holds

/-- **A path to a mapping** inside the mapping of a node leads to a node that holds it. -/
lemma exists_leads (h : Holds store arena parent lo id depth mapping) {path : List String}
    {inner : Mapping} (hreach : Reaches mapping path inner) :
    ∃ parent' lo' target, Leads arena id path target ∧
      Holds store arena parent' lo' target (depth + path.length) inner := by
  induction hreach generalizing parent lo id depth with
  | here mapping => exact ⟨parent, lo, id, .here id, h⟩
  | step hmem _ ih =>
    obtain ⟨slot, hslot, hkeeps⟩ := h.exists_slot hmem
    cases hkeeps with
    | leaf hvalue => simp [Value.asMapping?] at hvalue
    | node _ _ hchild =>
      obtain ⟨parent', lo', target, hlead, htarget⟩ := ih hchild
      rw [List.length_cons, Nat.add_comm _ 1, ← Nat.add_assoc]
      exact ⟨parent', lo', target, .step hslot hlead, htarget⟩

/-- **Every node in the stretch** of a node holds a mapping inside that of the node, and a path to
this mapping leads to it.

**Proof sketch.** Induction on the node: the place belongs to one of the children, which all come
before the node. -/
lemma exists_reaches (h : Holds store arena parent lo id depth mapping) {i : ℕ} (hlo : lo ≤ i)
    (hi : i ≤ id) :
    ∃ path inner parent' lo', Reaches mapping path inner ∧ Leads arena id path i ∧ lo ≤ lo' ∧
      Holds store arena parent' lo' i (depth + path.length) inner := by
  induction id using Nat.strongRecOn generalizing parent lo depth mapping with
  | _ id ih =>
    rcases Nat.lt_or_eq_of_le hi with hlt | rfl
    · obtain ⟨key, inner, lo', child, hmem, hslot, hle, hlo', hi', hchild, hholds⟩ :=
        h.stores.exists_child rfl hlo hlt
      obtain ⟨path, target, parent', lo'', hreach, hlead, hle', htarget⟩ :=
        ih child hchild hholds hlo' hi'
      refine ⟨key :: path, target, parent', lo'', .step hmem hreach,
        .step (h.slot?_eq_some_iff.mpr hslot) hlead, by omega, ?_⟩
      rw [List.length_cons, Nat.add_comm _ 1, ← Nat.add_assoc]
      exact htarget
    · exact ⟨[], mapping, parent, lo, .here mapping, .here i, Nat.le_refl _, h⟩

/-- Every node in the stretch of a node but the node itself has a later parent there, which lists it
among its children. -/
lemma exists_parent (h : Holds store arena parent lo id depth mapping) {i : ℕ} (hlo : lo ≤ i)
    (hi : i < id) :
    ∃ p, arena.parent? i = some p ∧ i < p ∧ p ≤ id ∧ i ∈ children (arena.data p).entries := by
  induction id using Nat.strongRecOn generalizing parent lo depth mapping with
  | _ id ih =>
    obtain ⟨key, inner, lo', child, -, hslot, -, hlo', hi', hchild, hholds⟩ :=
      h.stores.exists_child rfl hlo hi
    rcases Nat.lt_or_eq_of_le hi' with hlt | rfl
    · obtain ⟨p, hparent, hip, hp, hlists⟩ := ih child hchild hholds hlo' hlt
      exact ⟨p, hparent, hip, by omega, hlists⟩
    · exact ⟨id, hholds.parent_eq, hchild, Nat.le_refl _, mem_children_iff.mpr ⟨_, hslot⟩⟩

end Holds

/-! ## The way back up -/

/-- The name of a child is the key of its slot. -/
lemma nameOf?_eq_some {p : ℕ} (hnodup : (children (arena.data p).entries).Nodup) {key : String}
    (hmem : (key, .node id) ∈ (arena.data p).entries) : arena.nameOf? p id = some key := by
  unfold nameOf?
  generalize (arena.data p).entries = entries at hnodup hmem
  induction entries with
  | nil => simp at hmem
  | cons entry rest ih =>
    rcases List.mem_cons.mp hmem with rfl | hin
    · simp
    · obtain ⟨k, slot⟩ := entry
      cases slot with
      | value value => simpa using ih hnodup hin
      | node child =>
        obtain ⟨hnew, hrest⟩ : child ∉ children rest ∧ (children rest).Nodup :=
          List.nodup_cons.mp hnodup
        have hne : child ≠ id := by
          rintro rfl
          exact hnew (mem_children_iff.mpr ⟨key, hin⟩)
        simpa [hne] using ih hrest hin

namespace Holds

/-- The keys that lead from the top to a child are those that lead to the node, and then its own. -/
lemma keysTo_child (h : Holds store arena parent lo id depth mapping) {key : String} {child : ℕ}
    (hslot : arena.slot? id key = some (.node child)) :
    arena.keysTo child = arena.keysTo id ++ [normalizeKey key] := by
  obtain ⟨lo', inner, -, hlt, hchild⟩ := h.of_slot? hslot
  have hname := nameOf?_eq_some h.nodup_children (h.slot?_eq_some_iff.mp hslot)
  rw [keysTo, hchild.parent_eq]
  simp only [hname, Option.toList_some, hlt, h.id_lt, and_self, dite_true]

/-- **The way up from a node** that keys lead to gives these keys, normalized. -/
lemma keysTo_of_leads (h : Holds store arena parent lo id depth mapping) {path : List String}
    {target : ℕ} (hlead : Leads arena id path target) :
    arena.keysTo target = arena.keysTo id ++ path.map normalizeKey := by
  induction hlead generalizing parent lo depth mapping with
  | here => simp
  | step hslot _ ih =>
    obtain ⟨lo', inner, -, -, hchild⟩ := h.of_slot? hslot
    rw [ih hchild, h.keysTo_child hslot, List.map_cons, List.append_assoc, List.singleton_append]

end Holds

end Arena

/-! ## Walks -/

namespace Node

/-- A key reads as a node exactly if it holds one; how values are treated plays no part in this. -/
lemma getNode_eq_ok_iff {node child : Node} {key : String} :
    node.getNode key = .ok child ↔
      child.tree = node.tree ∧ node.tree.nodes.slot? node.id key = some (.node child.id) := by
  unfold getNode get getRaw?
  cases hslot : node.tree.nodes.slot? node.id key with
  | none => simp
  | some slot =>
    cases slot with
    | node id =>
      simp only [Option.map_some, Tree.entry, Except.ok.injEq, Option.some.injEq, Slot.node.injEq]
      constructor
      · rintro rfl
        exact ⟨rfl, rfl⟩
      · rintro ⟨htree, rfl⟩
        rw [← htree]
    | value value =>
      simp only [Option.map_some, Tree.entry, Option.some.injEq, reduceCtorEq, and_false, iff_false]
      cases value with
      | string raw =>
        by_cases hlevel : node.level = .options
        · cases hread : node.resolve key raw <;> simp [hlevel, hread, Except.map]
        · simp [hlevel]
      | _ => simp

/-- **A walk** arrives exactly where its keys lead. -/
lemma walk_eq_ok_iff {node target : Node} {path : List String} :
    node.walk path = .ok target ↔
      target.tree = node.tree ∧ node.tree.nodes.Leads node.id path target.id := by
  induction path generalizing node with
  | nil =>
    rw [walk, Except.ok.injEq]
    constructor
    · rintro rfl
      exact ⟨rfl, .here _⟩
    · rintro ⟨htree, hlead⟩
      cases node
      cases target
      cases hlead
      cases htree
      rfl
  | cons key path ih =>
    rw [walk]
    constructor
    · intro h
      cases hchild : node.getNode key with
      | error e => simp [hchild, Bind.bind, Except.bind] at h
      | ok child =>
        rw [hchild] at h
        obtain ⟨htree, hslot⟩ := getNode_eq_ok_iff.mp hchild
        obtain ⟨htree', hlead⟩ := ih.mp h
        rw [htree] at htree' hlead
        exact ⟨htree', .step hslot hlead⟩
    · rintro ⟨htree, hlead⟩
      cases hlead with
      | @step _ child _ _ _ hslot hlead =>
        have hchild : node.getNode key = .ok ⟨node.tree, child⟩ :=
          getNode_eq_ok_iff.mpr ⟨rfl, hslot⟩
        rw [hchild]
        exact ih.mpr ⟨htree, hlead⟩

end Node

/-! ## The ways down from the root -/

namespace Tree.Represents

variable {tree : Tree} {treatment : Treatment} {depth : ℕ} {mapping : Mapping}

/-- Every node of a tree holds a mapping, and some keys lead to it from the root. -/
lemma exists_holds (h : tree.Represents treatment depth mapping) {id : ℕ}
    (hid : id < tree.nodeCount) :
    ∃ path inner parent lo, Reaches mapping path inner ∧ tree.nodes.Leads tree.root path id ∧
      Arena.Holds treatment.store tree.nodes parent lo id (depth + path.length) inner := by
  have hroot : id ≤ tree.root := by
    rw [nodeCount, h.size_eq] at hid
    omega
  obtain ⟨path, inner, parent, lo, hreach, hlead, -, hholds⟩ :=
    h.holds.exists_reaches (Nat.zero_le id) hroot
  exact ⟨path, inner, parent, lo, hreach, hlead, hholds⟩

/-- The keys that lead to a node are its full key, up to their spelling. -/
lemma keysTo_of_leads (h : tree.Represents treatment depth mapping) {path : List String} {id : ℕ}
    (hlead : tree.nodes.Leads tree.root path id) :
    tree.nodes.keysTo id = path.map normalizeKey := by
  have hroot : tree.nodes.keysTo tree.root = [] := by
    rw [Arena.keysTo, h.holds.parent_eq]
  rw [h.holds.keysTo_of_leads hlead, hroot, List.nil_append]

/-- **Only one list of keys** leads from the root to a node, up to the spelling of the keys. -/
lemma walk_top_iff (h : tree.Represents treatment depth mapping) {id : ℕ}
    (hid : id < tree.nodeCount) {path : List String} :
    tree.top.walk path = .ok ⟨tree, id⟩ ↔ path.map normalizeKey = tree.nodes.keysTo id := by
  obtain ⟨path₀, -, -, -, -, hlead₀, -⟩ := h.exists_holds hid
  constructor
  · intro hwalk
    exact (h.keysTo_of_leads (Node.walk_eq_ok_iff.mp hwalk).2).symm
  · intro hpath
    rw [h.keysTo_of_leads hlead₀] at hpath
    refine Node.walk_eq_ok_iff.mpr ⟨rfl, ?_⟩
    show tree.nodes.Leads tree.root path id
    rw [← Arena.leads_map_normalizeKey_iff, hpath, Arena.leads_map_normalizeKey_iff]
    exact hlead₀

/-- The keys of a node are normalized. -/
lemma map_normalizeKey_keysTo (h : tree.Represents treatment depth mapping) {id : ℕ}
    (hid : id < tree.nodeCount) :
    (tree.nodes.keysTo id).map normalizeKey = tree.nodes.keysTo id := by
  obtain ⟨path, -, -, -, -, hlead, -⟩ := h.exists_holds hid
  rw [h.keysTo_of_leads hlead, List.map_map]
  exact List.map_congr_left fun key _ => normalizeKey_normalizeKey key

end Tree.Represents

end ConfigTree
