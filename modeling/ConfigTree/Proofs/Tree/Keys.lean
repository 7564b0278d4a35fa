import ConfigTree.Options
import ConfigTree.Proofs.Tree.Descent

set_option relaxedAutoImplicit false
set_option autoImplicit false

/-!
# The keys of a built tree

A node lists its entries under normalized keys, and a look-up normalizes the key it is given. So a
key that a node lists is normalized once more when it is looked up. This changes nothing, and each
listed key leads back to the entry that is listed with it. A key in another spelling is there
exactly if its normalized form is listed.

## Main definitions

* `ConfigTree.Node.FindsKeys` — a node finds the entries that it lists, and no others.

## Main results

* `ConfigTree.Node.getRaw?_eq` — a look-up is one in the list of entries, with the normalized key.
* `ConfigTree.Tree.Represents.normalizeKey_of_mem_keys` — the keys of a built tree are normalized.
* `ConfigTree.Tree.build_findsKeys` — keys are normalized once, and nodes find what they list.

## Implementation notes

A look-up in a list finds the first entry with the key. That it finds each of the entries needs the
keys to be distinct, which building a tree checks for the normalized keys.
-/

namespace ConfigTree

namespace Node

variable {node : Node} {key : String}

/-- The node finds the entries that it lists, and no others. -/
structure FindsKeys (node : Node) : Prop where
  /-- The entries are listed with the keys of the node, in the same order. -/
  keys_toList : Table.keys node.toList = node.keys
  /-- No key is listed twice. -/
  nodup_keys : node.keys.Nodup
  /-- The listed keys are normalized. -/
  normalizeKey_eq : ∀ key ∈ node.keys, normalizeKey key = key
  /-- A listed key finds the entry that is listed with it. -/
  getRaw?_of_mem : ∀ key entry, (key, entry) ∈ node.toList → node.getRaw? key = some entry
  /-- A key in any spelling finds the entry that is listed with its normalized form. -/
  getRaw?_eq_some_iff : ∀ key entry,
    node.getRaw? key = some entry ↔ (normalizeKey key, entry) ∈ node.toList
  /-- A key in any spelling is there if its normalized form is listed. -/
  contains_iff : ∀ key, node.contains key ↔ normalizeKey key ∈ node.keys

/-- The entries of a node are listed with its keys, in the same order. -/
lemma keys_toList (node : Node) : Table.keys node.toList = node.keys :=
  Table.keys_mapContents node.tree.entry node.data.entries

/-- A look-up is one in the list of entries, with the normalized key. -/
lemma getRaw?_eq (node : Node) (key : String) :
    node.getRaw? key = Table.get? node.toList (normalizeKey key) :=
  (Table.get?_mapContents node.tree.entry node.data.entries (normalizeKey key)).symm

/-- A key finds nothing exactly if its normalized form is not listed. -/
lemma getRaw?_eq_none_iff : node.getRaw? key = none ↔ normalizeKey key ∉ node.keys := by
  rw [getRaw?_eq, ← keys_toList]
  exact Table.get?_eq_none_iff

/-- A key is there exactly if its normalized form is one of the keys. -/
lemma contains_iff : node.contains key ↔ normalizeKey key ∈ node.keys := by
  rw [contains, Option.isSome_iff_ne_none, ne_eq, getRaw?_eq_none_iff, not_not]

/-- What a key finds is listed with its normalized form. -/
lemma mem_toList_of_getRaw? {entry : Entry} (h : node.getRaw? key = some entry) :
    (normalizeKey key, entry) ∈ node.toList := by
  rw [getRaw?_eq] at h
  exact Table.mem_of_get? h

/-- If no key is listed twice, a key finds what is listed with its normalized form. -/
lemma getRaw?_eq_some_iff (hkeys : node.keys.Nodup) {entry : Entry} :
    node.getRaw? key = some entry ↔ (normalizeKey key, entry) ∈ node.toList := by
  rw [getRaw?_eq]
  rw [← keys_toList] at hkeys
  exact Table.get?_eq_some_iff_mem hkeys

end Node

namespace Tree

variable {tree : Tree} {treatment : Treatment} {depth id : ℕ} {mapping : Mapping}

namespace Represents

/-- A node of a built tree lists no key twice. -/
lemma nodup_keys (h : tree.Represents treatment depth mapping) (hid : id < tree.nodeCount) :
    (Node.mk tree id).keys.Nodup := by
  obtain ⟨_, _, _, _, -, -, hholds⟩ := h.exists_holds hid
  exact hholds.nodup_keys

/-- The keys of a built tree are normalized.

**Proof sketch.** A node has the keys of the mapping that it holds, each of them normalized, and
normalizing such a key once more changes nothing. -/
lemma normalizeKey_of_mem_keys (h : tree.Represents treatment depth mapping)
    (hid : id < tree.nodeCount) {key : String} (hkey : key ∈ (Node.mk tree id).keys) :
    normalizeKey key = key := by
  obtain ⟨_, inner, _, _, -, -, hholds⟩ := h.exists_holds hid
  rw [Node.keys, Node.data, hholds.stores.keys_eq, Mapping.keys_normalized] at hkey
  obtain ⟨written, -, rfl⟩ := List.mem_map.mp hkey
  exact normalizeKey_normalizeKey written

/-- A listed key is found again, although a look-up normalizes it once more. -/
lemma getRaw?_of_mem_toList (h : tree.Represents treatment depth mapping) {key : String}
    {entry : Entry} (hid : id < tree.nodeCount) (hmem : (key, entry) ∈ (Node.mk tree id).toList) :
    (Node.mk tree id).getRaw? key = some entry := by
  have hkey : key ∈ (Node.mk tree id).keys := by
    rw [← Node.keys_toList]
    exact Table.mem_keys_of_mem hmem
  rw [Node.getRaw?_eq_some_iff (h.nodup_keys hid), h.normalizeKey_of_mem_keys hid hkey]
  exact hmem

/-- **A node of a built tree** finds exactly the entries that it lists. -/
lemma findsKeys (h : tree.Represents treatment depth mapping) (hid : id < tree.nodeCount) :
    (Node.mk tree id).FindsKeys where
  keys_toList := Node.keys_toList _
  nodup_keys := h.nodup_keys hid
  normalizeKey_eq _ hkey := h.normalizeKey_of_mem_keys hid hkey
  getRaw?_of_mem _ _ hmem := h.getRaw?_of_mem_toList hid hmem
  getRaw?_eq_some_iff _ _ := Node.getRaw?_eq_some_iff (h.nodup_keys hid)
  contains_iff _ := Node.contains_iff

end Represents

/-- **Keys are normalized once**: doing it again changes nothing, whatever characters a key has.
Hence every node of a built tree finds the entries that it lists under the keys with which it lists
them, and it has a key in another spelling exactly if the normalized form is among its keys.

**Proof sketch.** Lower-casing gives characters that it keeps wherever they stand
(`Text.isLower_of_mem_lowercaseFrom`). The tree represents its mapping, so that its nodes have
distinct normalized keys (`Represents.findsKeys`). -/
theorem build_findsKeys :
    (∀ key, normalizeKey (normalizeKey key) = normalizeKey key) ∧
    ∀ treatment mapping label depth tree, build treatment mapping label depth = .ok tree →
      ∀ id < tree.nodeCount, (Node.mk tree id).FindsKeys := by
  refine ⟨normalizeKey_normalizeKey, fun treatment mapping label depth tree hbuild id hid => ?_⟩
  have h : tree.Represents treatment depth mapping := represents_of_build hbuild
  exact h.findsKeys hid

/-- A tree with two keys whose letters are not put in lower case one by one: the last letter of the
first has a form of its own for the end of a word, and the second one becomes two characters. -/
def capitals : Tree :=
  ⟨#[⟨.sections, [("οδος", .value .null), ("i\u0307", .value (.bool true))], some none⟩], 0,
    ({} : Options).treatment⟩

/-- Both are found in lower case, and the first one in capitals as well. -/
theorem findsKeys_capitals :
    build capitals.treatment [("ΟΔΟΣ", .null), ("İ", .bool true)] "ROOT" 0 = .ok capitals ∧
      (Node.mk capitals 0).getRaw? "οδος" = some (.value .null) ∧
      (Node.mk capitals 0).getRaw? "i\u0307" = some (.value (.bool true)) ∧
      (Node.mk capitals 0).contains "ΟΔΟΣ" := by
  have hbuild : build capitals.treatment [("ΟΔΟΣ", .null), ("İ", .bool true)] "ROOT" 0 =
      .ok capitals := rfl
  have h := build_findsKeys.2 _ _ _ _ _ hbuild 0 (by decide)
  refine ⟨hbuild, h.getRaw?_of_mem _ _ ?_, h.getRaw?_of_mem _ _ ?_, (h.contains_iff _).mpr ?_⟩
  · exact List.mem_cons_self
  · exact List.mem_cons_of_mem _ List.mem_cons_self
  · have hkey : normalizeKey "ΟΔΟΣ" = "οδος" := by decide
    rw [hkey]
    exact List.mem_cons_self

end Tree

end ConfigTree
