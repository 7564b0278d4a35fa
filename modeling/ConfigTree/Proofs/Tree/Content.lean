import ConfigTree.Config.Basic
import ConfigTree.Proofs.Text.Pieces
import ConfigTree.Proofs.Tree.Descent

set_option relaxedAutoImplicit false
set_option autoImplicit false

/-!
# The content of a built tree and its full keys

A nested mapping becomes a tree unless it has a fault. The tree then holds the mapping and nothing
else: the keys of the mapping lead to its nodes and values, and there are no further nodes and
entries. If there are faults, the first of them is the error.

The full key of a key at a node is found on the way up, by the places of the nodes. In a built tree
it consists of the keys that lead down to the node, normalized, and the key itself. As a dotted path
it leads a look-up back to the key of that node.

## Main definitions

* `ConfigTree.Tree.Mirrors` — a tree has the nodes and entries of a mapping, and no others.

## Main results

* `ConfigTree.Tree.build_correct` — when building succeeds, what it makes, and how it fails.
* `ConfigTree.Config.lookupRaw_dotted` — a look-up along a dotted path.
* `ConfigTree.Tree.build_fullKey` — full keys follow the way down, tell keys of nodes apart, and
  lead back.
-/

namespace ConfigTree

/-! ## Content -/

namespace Tree

open Mapping (Reaches)

/-- The tree has the nodes and the entries of a mapping whose top stands at `depth`, with values in
the form that `store` gives them, and no others. -/
structure Mirrors (tree : Tree) (store : Value → Value) (depth : ℕ) (mapping : Mapping) : Prop where
  /-- A path into the mapping leads to a node with the keys and the values of the mapping there. -/
  node_of_reaches : ∀ path inner, Reaches mapping path inner →
    ∃ node, tree.top.walk path = .ok node ∧ node.level = Level.ofDepth (depth + path.length) ∧
      node.keys = inner.keys.map normalizeKey ∧
      ∀ key value, (key, value) ∈ inner → value.asMapping? = none →
        node.getRaw? key = some (.value (store value))
  /-- Every node is found by such a path. -/
  reaches_of_node : ∀ id < tree.nodeCount,
    ∃ path inner, Reaches mapping path inner ∧ tree.top.walk path = .ok ⟨tree, id⟩

/-- A tree that stores a mapping mirrors it. -/
lemma Represents.mirrors {tree : Tree} {treatment : Treatment} {depth : ℕ} {mapping : Mapping}
    (h : tree.Represents treatment depth mapping) : tree.Mirrors treatment.store depth mapping := by
  refine ⟨fun path inner hreach => ?_, fun id hid => ?_⟩
  · obtain ⟨parent, lo, target, hlead, hholds⟩ := h.holds.exists_leads hreach
    refine ⟨⟨tree, target⟩, Node.walk_eq_ok_iff.mpr ⟨rfl, hlead⟩, hholds.level_eq, ?_, ?_⟩
    · rw [Node.keys, Node.data, hholds.stores.keys_eq, Mapping.keys_normalized]
    · intro key value hmem hvalue
      obtain ⟨slot, hslot, hkeeps⟩ := hholds.exists_slot hmem
      cases hkeeps with
      | leaf => rw [Node.getRaw?, hslot, Option.map_some, entry]
      | node => simp [Value.asMapping?] at hvalue
  · obtain ⟨path, inner, -, -, hreach, hlead, -⟩ := h.exists_holds hid
    exact ⟨path, inner, hreach, Node.walk_eq_ok_iff.mpr ⟨rfl, hlead⟩⟩

/-- **Building a tree** succeeds exactly if every mapping inside the given one, and this one itself,
stands at one of the levels and has distinct normalized keys. The tree then has the nodes and entries
of the mapping and no others. It fails exactly if there is a fault, with the first one in the order
of the entries, where faults inside an entry come before a clash of its own key.

**Proof sketch.** The faults of the mapping decide the result (`decides_build`); they are none under
that condition (`Mapping.faultsAt_eq_nil_iff`), and the tree represents the mapping then. -/
theorem build_correct (treatment : Treatment) (mapping : Mapping) (label : String) (depth : ℕ) :
    ((∃ tree, build treatment mapping label depth = .ok tree) ↔
      ∀ path inner, Reaches mapping path inner →
        depth + path.length < maxLevel ∧ (inner.keys.map normalizeKey).Nodup) ∧
    (∀ tree, build treatment mapping label depth = .ok tree →
      tree.Mirrors treatment.store depth mapping) ∧
    ∀ e, build treatment mapping label depth = .error e ↔
      (mapping.faultsAt treatment.store label depth).head? = some e := by
  have hdecides := decides_build label treatment mapping depth
  refine ⟨?_, fun tree hbuild => (represents_of_build hbuild).mirrors, fun e => ?_⟩
  · rw [hdecides.exists_ok_iff, Mapping.faultsAt_eq_nil_iff]
  · exact hdecides.eq_error_iff e

/-- The mapping below the last level comes before the clash of the key that holds it. -/
example (treatment : Treatment) :
    build treatment [("a", .null), ("A", .mapping [("b", .mapping [])])] "ROOT" 1 =
      .error (.maxLevelExceeded "A.b" 3) := by
  rfl

end Tree

/-! ## Full keys -/

/-- A look-up along a dotted path goes to the node of all segments but the last, and reads the last
one there. -/
lemma Config.lookupRaw_dotted (config : Config) {keys : List String} {key : String} {node : Node}
    (hwalk : config.root.walk keys = .ok node) (hparts : ∀ part ∈ keys ++ [key], '.' ∉ part.toList)
    (hne : Text.dotted (keys ++ [key]) ≠ "") :
    config.lookupRaw (Text.dotted (keys ++ [key])) =
      match node.getRaw? key with
      | some entry => .ok entry
      | none => .error (node.notFound key) := by
  have hsegments : Text.segments (Text.dotted (keys ++ [key])) = keys ++ [key] :=
    Text.segments_dotted hparts (by simp)
  have hparent : config.parentOf (Text.dotted (keys ++ [key])) = .ok (node, key) := by
    rw [parentOf, parentSegments, lastSegment, hsegments, List.dropLast_concat, hwalk,
      List.getLastD_concat]
    rfl
  rw [lookupRaw, if_neg hne, hparent]
  rfl

namespace Tree.Represents

variable {tree : Tree} {treatment : Treatment} {depth : ℕ} {mapping : Mapping}

/-- Full keys tell the keys of all nodes apart. -/
lemma fullKey_injective (h : tree.Represents treatment depth mapping) {id id' : ℕ}
    {key key' : String} (hid : id < tree.nodeCount) (hid' : id' < tree.nodeCount)
    (hkeys : (Node.mk tree id).fullKey key = (Node.mk tree id').fullKey key') :
    id = id' ∧ key = key' := by
  obtain ⟨hpath, hkey⟩ := List.append_inj' hkeys rfl
  refine ⟨?_, List.singleton_inj.mp hkey⟩
  have hwalk := (h.walk_top_iff hid).mpr (h.map_normalizeKey_keysTo hid)
  have hwalk' := (h.walk_top_iff hid').mpr (h.map_normalizeKey_keysTo hid')
  rw [hpath, hwalk'] at hwalk
  exact (Node.mk.inj (Except.ok.inj hwalk)).2.symm

end Tree.Represents

/-- **Full keys** of a built tree: the full key at a node that keys lead to consists of these keys,
normalized, and the key itself; different keys or nodes have different full keys; and a look-up of
the full key as a dotted path finds what the node stores under the key, if no part of the full key
has a dot and the path is not empty.

**Proof sketch.** The way up from a node finds the keys of the only way down to it
(`Represents.walk_top_iff`), so that walking along them leads to the node again. -/
theorem Tree.build_fullKey {treatment : Treatment} {mapping : Mapping} {label : String} {depth : ℕ}
    {tree : Tree} (hbuild : build treatment mapping label depth = .ok tree) :
    (∀ keys node, tree.top.walk keys = .ok node →
      ∀ key, node.fullKey key = keys.map normalizeKey ++ [key]) ∧
    (∀ id id' key key', id < tree.nodeCount → id' < tree.nodeCount →
      (Node.mk tree id).fullKey key = (Node.mk tree id').fullKey key' → id = id' ∧ key = key') ∧
    ∀ options id key, id < tree.nodeCount →
      (∀ part ∈ (Node.mk tree id).fullKey key, '.' ∉ part.toList) →
      (Node.mk tree id).pathOf key ≠ "" →
      (Config.mk tree options).lookupRaw ((Node.mk tree id).pathOf key) =
        match (Node.mk tree id).getRaw? key with
        | some entry => .ok entry
        | none => .error ((Node.mk tree id).notFound key) := by
  have h := represents_of_build hbuild
  refine ⟨fun keys node hwalk key => ?_, fun id id' key key' => h.fullKey_injective, ?_⟩
  · obtain ⟨htree, hlead⟩ : node.tree = tree ∧ tree.nodes.Leads tree.root keys node.id :=
      Node.walk_eq_ok_iff.mp hwalk
    rw [Node.fullKey, htree, Arena.fullKey, h.keysTo_of_leads hlead]
  · intro options id key hid hparts hne
    have hwalk := (h.walk_top_iff hid).mpr (h.map_normalizeKey_keysTo hid)
    exact (Config.mk tree options).lookupRaw_dotted hwalk hparts hne

/-- A tree with one option, in a subsection of a section. -/
def Tree.chain : Tree :=
  ⟨#[⟨.options, [("x", .value .null)], some (some 1)⟩,
      ⟨.subsections, [("b", .node 0)], some (some 2)⟩,
      ⟨.sections, [("a", .node 1)], some none⟩], 2, ({} : Options).treatment⟩

/-- The full key of that option, and its look-up. -/
theorem Tree.fullKey_chain :
    build chain.treatment [("A", .mapping [("B", .mapping [("x", .null)])])] "ROOT" 0 = .ok chain ∧
      (Node.mk chain 0).fullKey "X" = ["a", "b", "X"] ∧
      (Config.mk chain {}).lookupRaw "a.b.X" = .ok (.value .null) := by
  have hbuild : build chain.treatment [("A", .mapping [("B", .mapping [("x", .null)])])] "ROOT" 0 =
      .ok chain := rfl
  obtain ⟨hfull, -, hlookup⟩ := build_fullKey hbuild
  have hkey : (Node.mk chain 0).fullKey "X" = ["a", "b", "X"] := hfull ["A", "B"] ⟨chain, 0⟩ rfl "X"
  have hpath : (Node.mk chain 0).pathOf "X" = "a.b.X" := by
    rw [Node.pathOf, hkey]
    rfl
  have hfound := hlookup {} 0 "X" (by decide) (by rw [hkey]; decide) (by rw [hpath]; decide)
  rw [hpath] at hfound
  exact ⟨hbuild, hkey, hfound⟩

end ConfigTree
