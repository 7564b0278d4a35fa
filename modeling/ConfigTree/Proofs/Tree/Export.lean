import ConfigTree.Config.Basic
import ConfigTree.Proofs.Runs
import ConfigTree.Proofs.Tree.Keys
import ConfigTree.Proofs.Tree.Read
import ConfigTree.Value.Path

set_option relaxedAutoImplicit false
set_option autoImplicit false

/-!
# The export of a built tree

An export has the nodes and the keys of the tree, in their order, and each value in the form in which
it is exported. Where the keys of the tree lead to a node or a value, the same keys, normalized, lead
to its exported form. An export of the values as they read reads them one after the other, depth
first, and fails where the first of these reads fails.

## Main definitions

* `ConfigTree.Arena.Descends` — children come before their parent.
* `ConfigTree.Arena.leaves` — the places of the values below a node, depth first.
* `ConfigTree.Tree.exportSlot` — the exported form of what is stored under a key.
* `ConfigTree.Tree.readLeaf` — the value at a place, as it reads.

## Main results

* `ConfigTree.Tree.exportFrom_eq_ok_iff` — the entries of an export, one by one.
* `ConfigTree.Tree.walk?_of_leads`, `ConfigTree.Tree.exists_of_walk?` — the ways into an export.
* `ConfigTree.Tree.map_exportFrom` — an export reads the values one after the other.
* `ConfigTree.Config.toValue_resolved` — when an export of the values as they read succeeds, what it
  makes, and how it fails.
-/

namespace ConfigTree

open Arena (children)

/-! ## The entries of an export -/

/-- All children of the arena come before their parent. -/
def Arena.Descends (arena : Arena) : Prop :=
  ∀ id, ∀ child ∈ children (arena.data id).entries, child < id

/-- In a built tree, all children come before their parent. -/
lemma Tree.Represents.descends {tree : Tree} {treatment : Treatment} {depth : ℕ} {mapping : Mapping}
    (h : tree.Represents treatment depth mapping) : tree.nodes.Descends :=
  fun _ _ hchild => (h.parent?_eq_some_of_mem_children hchild).2.1

namespace Tree

variable {tree : Tree} {resolved : Bool} {id : ℕ} {exported : Value}

/-- The exported form of what the node `id` stores under a key. -/
def exportSlot (tree : Tree) (resolved : Bool) (id : ℕ) (key : String) : Slot → Except Error Value
  | .node child => tree.exportFrom resolved child
  | .value raw => if resolved then (Node.mk tree id).getValue key else .ok raw

/-- The export of a node has the exported forms of its entries, under their keys and in their order.
-/
lemma exportFrom_eq (h : tree.nodes.Descends) (resolved : Bool) (id : ℕ) :
    tree.exportFrom resolved id = ((tree.nodes.data id).entries.mapM fun entry =>
      (tree.exportSlot resolved id entry.1 entry.2).map (entry.1, ·)).map .mapping := by
  rw [exportFrom]
  congr 1
  refine mapM_congr fun entry hentry => ?_
  obtain ⟨key, slot⟩ := entry
  cases slot with
  | node child =>
    have hlt := h id child (Arena.mem_children_iff.mpr ⟨key, hentry⟩)
    simp only [hlt, dite_true, exportSlot]
  | value raw =>
    simp only [exportSlot]
    split <;> rfl

/-- Two exports of the same nodes agree if they export the same for every value. -/
lemma exportFrom_congr {tree' : Tree} {resolved' : Bool} (h : tree.nodes.Descends)
    (hnodes : tree'.nodes = tree.nodes)
    (hvalues : ∀ id key raw, (key, .value raw) ∈ (tree.nodes.data id).entries →
      tree.exportSlot resolved id key (.value raw) = tree'.exportSlot resolved' id key (.value raw))
    (id : ℕ) : tree.exportFrom resolved id = tree'.exportFrom resolved' id := by
  induction id using Nat.strongRecOn with
  | _ id ih =>
    rw [exportFrom_eq h, exportFrom_eq (by rw [hnodes]; exact h), hnodes]
    congr 1
    refine mapM_congr fun entry hentry => ?_
    obtain ⟨key, slot⟩ := entry
    congr 1
    cases slot with
    | node child => exact ih child (h id child (Arena.mem_children_iff.mpr ⟨key, hentry⟩))
    | value raw => exact hvalues id key raw hentry

/-- **An export** is a mapping with the keys of the node, in their order, and with the exported form
of what the node stores under each key. -/
lemma exportFrom_eq_ok_iff (h : tree.nodes.Descends) :
    tree.exportFrom resolved id = .ok exported ↔
      ∃ entries, exported = .mapping entries ∧ List.Forall₂ (fun slot entry => entry.1 = slot.1 ∧
        tree.exportSlot resolved id slot.1 slot.2 = .ok entry.2)
          (tree.nodes.data id).entries entries := by
  have hentry : ∀ (slot : String × Slot) (entry : String × Value),
      (tree.exportSlot resolved id slot.1 slot.2).map (slot.1, ·) = .ok entry ↔
        entry.1 = slot.1 ∧ tree.exportSlot resolved id slot.1 slot.2 = .ok entry.2 := by
    rintro slot ⟨key, value⟩
    simp only [map_eq_ok_iff, Prod.mk.injEq]
    constructor
    · rintro ⟨found, hfound, rfl, rfl⟩
      exact ⟨rfl, hfound⟩
    · rintro ⟨rfl, hvalue⟩
      exact ⟨value, hvalue, rfl, rfl⟩
  rw [exportFrom_eq h, map_eq_ok_iff]
  simp only [mapM_eq_ok_iff, hentry]
  exact exists_congr fun entries => ⟨fun h => ⟨h.2.symm, h.1⟩, fun h => ⟨h.2, h.1.symm⟩⟩

/-! ## Ways into an export -/

/-- Entries that belong to slots, one by one, are found under the same keys. -/
lemma get?_of_forall₂ {r : String → Slot → Value → Prop} {slots : Table Slot} {entries : Mapping}
    (h : List.Forall₂ (fun slot entry => entry.1 = slot.1 ∧ r slot.1 slot.2 entry.2) slots entries)
    (key : String) :
    (∀ slot, slots.get? key = some slot →
      ∃ value, entries.get? key = some value ∧ r key slot value) ∧
    ∀ value, entries.get? key = some value →
      ∃ slot, slots.get? key = some slot ∧ r key slot value := by
  induction h with
  | nil => simp [Table.get?]
  | @cons slot entry _ _ hentry _ ih =>
    obtain ⟨k, first⟩ := slot
    obtain ⟨k', value⟩ := entry
    obtain ⟨rfl, hr⟩ : k' = k ∧ r k first value := hentry
    by_cases hk : k' = key
    · subst hk
      simp [Table.get?, hr]
    · simpa [Table.get?, hk] using ih

/-- An export has a key, normalized, exactly if the node has it, and holds under it the exported form
of what the node holds. -/
lemma exists_entries (h : tree.nodes.Descends)
    (hexport : tree.exportFrom resolved id = .ok exported) (key : String) :
    ∃ entries : Mapping, exported = .mapping entries ∧
      (∀ slot, tree.nodes.slot? id key = some slot → ∃ value,
        entries.get? (normalizeKey key) = some value ∧
          tree.exportSlot resolved id (normalizeKey key) slot = .ok value) ∧
      ∀ value, entries.get? (normalizeKey key) = some value →
        ∃ slot, tree.nodes.slot? id key = some slot := by
  obtain ⟨entries, hentries, hpairs⟩ := (exportFrom_eq_ok_iff h).mp hexport
  have hkeys := get?_of_forall₂
    (r := fun key slot value => tree.exportSlot resolved id key slot = .ok value) hpairs
    (normalizeKey key)
  refine ⟨entries, hentries, hkeys.1, fun value hvalue => ?_⟩
  obtain ⟨slot, hslot, -⟩ := hkeys.2 value hvalue
  exact ⟨slot, hslot⟩

/-- A key of the node leads into the export to the exported form of what it holds. -/
lemma walk?_cons (h : tree.nodes.Descends) (hexport : tree.exportFrom resolved id = .ok exported)
    {key : String} {slot : Slot} (hslot : tree.nodes.slot? id key = some slot) :
    ∃ value, tree.exportSlot resolved id (normalizeKey key) slot = .ok value ∧
      ∀ rest, exported.walk? (normalizeKey key :: rest) = value.walk? rest := by
  obtain ⟨entries, rfl, hslots, -⟩ := exists_entries h hexport key
  obtain ⟨value, hvalue, hslot⟩ := hslots slot hslot
  refine ⟨value, hslot, fun rest => ?_⟩
  rw [Value.walk?, hvalue, Option.bind_some]

/-- Only such keys lead into the export. -/
lemma exists_slot_of_walk?_cons (h : tree.nodes.Descends)
    (hexport : tree.exportFrom resolved id = .ok exported) {key : String} {rest : List String}
    {found : Value} (hwalk : exported.walk? (normalizeKey key :: rest) = some found) :
    ∃ slot, tree.nodes.slot? id key = some slot := by
  obtain ⟨entries, rfl, -, hkeys⟩ := exists_entries h hexport key
  rw [Value.walk?] at hwalk
  obtain ⟨value, hvalue, -⟩ := Option.bind_eq_some_iff.mp hwalk
  exact hkeys value hvalue

/-- **Keys that lead to a node** lead, normalized, to its export.

**Proof sketch.** Induction along the keys; each of them leads to a child and to its export. -/
lemma walk?_of_leads (h : tree.nodes.Descends) {path : List String} {target : ℕ}
    (hlead : tree.nodes.Leads id path target)
    (hexport : tree.exportFrom resolved id = .ok exported) :
    ∃ inner, tree.exportFrom resolved target = .ok inner ∧
      ∀ rest, exported.walk? (path.map normalizeKey ++ rest) = inner.walk? rest := by
  induction hlead generalizing exported with
  | here => exact ⟨exported, hexport, fun _ => rfl⟩
  | step hslot _ ih =>
    obtain ⟨value, hvalue, hwalk⟩ := walk?_cons h hexport hslot
    obtain ⟨inner, hinner, hrest⟩ := ih hvalue
    exact ⟨inner, hinner, fun rest => (hwalk _).trans (hrest rest)⟩

/-- **Where normalized keys lead into an export**, they lead in the tree, too, if no value is
exported as a mapping: to a node, or to a node and one of its keys.

**Proof sketch.** Induction along the keys. A key that holds a value can only be the last one, since
nothing leads on from a value that is no mapping. -/
lemma exists_of_walk? (h : tree.nodes.Descends)
    (hvalues : ∀ id key raw value, tree.nodes.slot? id key = some (.value raw) →
      tree.exportSlot resolved id (normalizeKey key) (.value raw) = .ok value →
      value.asMapping? = none)
    {keys : List String} {key : String} {found : Value}
    (hexport : tree.exportFrom resolved id = .ok exported)
    (hwalk : exported.walk? ((keys ++ [key]).map normalizeKey) = some found) :
    ∃ target slot, tree.nodes.Leads id keys target ∧ tree.nodes.slot? target key = some slot := by
  induction keys generalizing id exported with
  | nil =>
    obtain ⟨slot, hslot⟩ := exists_slot_of_walk?_cons h hexport hwalk
    exact ⟨id, slot, .here id, hslot⟩
  | cons first rest ih =>
    obtain ⟨slot, hslot⟩ := exists_slot_of_walk?_cons h hexport hwalk
    obtain ⟨value, hvalue, hnext⟩ := walk?_cons h hexport hslot
    have hwalk := (hnext _).symm.trans hwalk
    cases slot with
    | node child =>
      obtain ⟨target, slot, hlead, hkey⟩ := ih hvalue hwalk
      exact ⟨target, slot, .step hslot hlead, hkey⟩
    | value raw =>
      have hleaf := hvalues id first raw value hslot hvalue
      cases value with
      | mapping entries => simp [Value.asMapping?] at hleaf
      | _ => cases rest <;> simp [Value.walk?] at hwalk

end Tree

/-! ## Reading the values one after the other -/

/-- The places of the values that a node and the nodes below it store, each with its node and its
key: depth first, and at one node in the order of its entries. -/
def Arena.leaves (arena : Arena) (id : ℕ) : List (ℕ × String) :=
  (arena.data id).entries.flatMap fun entry =>
    match entry with
    | (_, .node child) => if _h : child < id then arena.leaves child else []
    | (key, .value _) => [(id, key)]
termination_by id

/-- The places of the values below a slot, or of the value in it. -/
def Arena.leavesOf (arena : Arena) (id : ℕ) (key : String) : Slot → List (ℕ × String)
  | .node child => arena.leaves child
  | .value _ => [(id, key)]

/-- The places below a node are those below its slots, one slot after the other. -/
lemma Arena.leaves_eq {arena : Arena} (h : arena.Descends) (id : ℕ) :
    arena.leaves id = (arena.data id).entries.flatMap fun entry =>
      arena.leavesOf id entry.1 entry.2 := by
  rw [leaves]
  refine List.flatMap_congr fun entry hentry => ?_
  obtain ⟨key, slot⟩ := entry
  cases slot with
  | node child =>
    have hlt := h id child (mem_children_iff.mpr ⟨key, hentry⟩)
    simp only [hlt, dite_true, leavesOf]
  | value raw => rfl

namespace Tree

variable {tree : Tree} {id : ℕ}

/-- The value at a place, as it reads. -/
def readLeaf (tree : Tree) (leaf : ℕ × String) : Except Error Value :=
  (Node.mk tree leaf.1).getValue leaf.2

/-- **An export** of the values as they read reads them one after the other.

**Proof sketch.** Induction on the node, whose children come before it. An export goes through the
entries of the node as the list of places does. -/
lemma map_exportFrom (h : tree.nodes.Descends) (resolved : Bool) (id : ℕ) :
    (tree.exportFrom resolved id).map (fun _ => ()) =
      forM (tree.nodes.leaves id) fun leaf =>
        if resolved then (tree.readLeaf leaf).map fun _ => () else .ok () := by
  induction id using Nat.strongRecOn with
  | _ id ih =>
    have hunit : ∀ {α β : Type} (f : α → β) (result : Except Error α),
        (result.map f).map (fun _ => ()) = result.map fun _ => () := by
      intro α β f result
      cases result <;> rfl
    rw [exportFrom_eq h, hunit, map_mapM, Arena.leaves_eq h, forM_flatMap]
    refine forM_congr fun entry hentry => ?_
    obtain ⟨key, slot⟩ := entry
    rw [hunit]
    cases slot with
    | node child => exact ih child (h id child (Arena.mem_children_iff.mpr ⟨key, hentry⟩))
    | value raw =>
      simp only [exportSlot, Arena.leavesOf, readLeaf, List.forM_cons, List.forM_nil]
      cases resolved with
      | false => rfl
      | true => cases (Node.mk tree id).getValue key <;> rfl

/-- An export of the values as they are stored never fails. -/
lemma exists_exportFrom (h : tree.nodes.Descends) (id : ℕ) :
    ∃ value, tree.exportFrom false id = .ok value := by
  rw [← map_unit_eq_ok_iff, map_exportFrom h, forM_eq_ok_iff]
  exact fun _ _ => rfl

/-- The places are those of all values below the node. -/
lemma mem_leaves_of_leads (h : tree.nodes.Descends) {path : List String} {target : ℕ}
    (hlead : tree.nodes.Leads id path target) {key : String} {raw : Value}
    (hmem : (key, .value raw) ∈ (tree.nodes.data target).entries) :
    (target, key) ∈ tree.nodes.leaves id := by
  induction hlead with
  | here id =>
    rw [Arena.leaves_eq h]
    exact List.mem_flatMap.mpr ⟨_, hmem, List.mem_singleton.mpr rfl⟩
  | step hslot _ ih =>
    rw [Arena.leaves_eq h]
    exact List.mem_flatMap.mpr ⟨_, Table.mem_of_get? hslot, ih hmem⟩

/-- Each place below a node is that of a value, in this node or in an earlier one. -/
lemma of_mem_leaves (h : tree.nodes.Descends) {leaf : ℕ × String}
    (hmem : leaf ∈ tree.nodes.leaves id) :
    leaf.1 ≤ id ∧ ∃ raw, (leaf.2, .value raw) ∈ (tree.nodes.data leaf.1).entries := by
  induction id using Nat.strongRecOn with
  | _ id ih =>
    rw [Arena.leaves_eq h] at hmem
    obtain ⟨⟨key, slot⟩, hentry, hmem⟩ := List.mem_flatMap.mp hmem
    cases slot with
    | node child =>
      have hlt := h id child (Arena.mem_children_iff.mpr ⟨key, hentry⟩)
      obtain ⟨hle, hraw⟩ := ih child hlt hmem
      exact ⟨by omega, hraw⟩
    | value raw =>
      obtain rfl := List.mem_singleton.mp hmem
      exact ⟨Nat.le_refl id, raw, hentry⟩

/-- Every value that the tree stores can be read. -/
def AllRead (tree : Tree) : Prop :=
  ∀ id < tree.nodeCount, ∀ key raw, (key, .value raw) ∈ (Node.mk tree id).toList →
    ∃ value, (Node.mk tree id).getValue key = .ok value

/-- Of all values that the tree stores, depth first and in the order of insertion, the first one that
cannot be read fails with this error. -/
def FirstFailure (tree : Tree) (e : Error) : Prop :=
  ∃ before leaf after, tree.nodes.leaves tree.root = before ++ leaf :: after ∧
    (∀ earlier ∈ before, ∃ value, tree.readLeaf earlier = .ok value) ∧
    tree.readLeaf leaf = .error e

/-- A node lists exactly the values that stand in its slots. -/
lemma mem_toList_value_iff {key : String} {raw : Value} :
    (key, .value raw) ∈ (Node.mk tree id).toList ↔
      (key, .value raw) ∈ (tree.nodes.data id).entries := by
  rw [Node.toList, Node.data, List.mem_map]
  constructor
  · rintro ⟨⟨k, slot⟩, hmem, heq⟩
    obtain ⟨rfl, hentry⟩ := Prod.mk.inj heq
    cases slot with
    | node child => simp [entry] at hentry
    | value value =>
      obtain rfl := Entry.value.inj hentry
      exact hmem
  · exact fun hmem => ⟨_, hmem, rfl⟩

/-- Only a node of the tree lists an entry. -/
lemma lt_nodeCount_of_mem_toList {key : String} {entry : Entry}
    (h : (key, entry) ∈ (Node.mk tree id).toList) : id < tree.nodeCount := by
  by_contra hid
  rw [Node.toList, Node.data, Arena.data_of_size_le (Nat.le_of_not_lt hid)] at h
  simp [default] at h

/-- If every value can be read, the export of every node as it reads succeeds. -/
lemma AllRead.exists_exportFrom (hall : tree.AllRead) (h : tree.nodes.Descends) (id : ℕ) :
    ∃ value, tree.exportFrom true id = .ok value := by
  rw [← map_unit_eq_ok_iff, map_exportFrom h, forM_eq_ok_iff]
  intro leaf hleaf
  obtain ⟨-, raw, hraw⟩ := of_mem_leaves h hleaf
  have hlist := mem_toList_value_iff.mpr hraw
  exact map_unit_eq_ok_iff.mpr (hall _ (lt_nodeCount_of_mem_toList hlist) _ _ hlist)

namespace Represents

variable {treatment : Treatment} {depth : ℕ} {mapping : Mapping}

/-- The places below the root are those of all values that the tree stores. -/
lemma mem_leaves_iff (h : tree.Represents treatment depth mapping) {key : String} :
    (id, key) ∈ tree.nodes.leaves tree.root ↔
      id < tree.nodeCount ∧ ∃ raw, (key, .value raw) ∈ (Node.mk tree id).toList := by
  constructor
  · intro hmem
    obtain ⟨hle, raw, hraw⟩ := of_mem_leaves h.descends hmem
    have hid : id < tree.nodeCount := by
      rw [nodeCount, h.size_eq]
      exact Nat.lt_succ_of_le hle
    exact ⟨hid, raw, mem_toList_value_iff.mpr hraw⟩
  · rintro ⟨hid, raw, hraw⟩
    obtain ⟨_, _, _, _, -, hlead, -⟩ := h.exists_holds hid
    exact mem_leaves_of_leads h.descends hlead (mem_toList_value_iff.mp hraw)

/-- All places below the root can be read exactly if all values of the tree can. -/
lemma forall_leaves_iff (h : tree.Represents treatment depth mapping) :
    (∀ leaf ∈ tree.nodes.leaves tree.root, ∃ value, tree.readLeaf leaf = .ok value) ↔
      tree.AllRead := by
  constructor
  · intro hall id hid key raw hmem
    exact hall (id, key) (h.mem_leaves_iff.mpr ⟨hid, raw, hmem⟩)
  · rintro hall ⟨id, key⟩ hmem
    obtain ⟨hid, raw, hraw⟩ := h.mem_leaves_iff.mp hmem
    exact hall id hid key raw hraw

end Represents

end Tree

/-! ## The export of a configuration -/

/-- The exported form of an entry of a node, as it reads. -/
def Node.readEntry (node : Node) (key : String) : Entry → Except Error Value
  | .node child => child.toValue true
  | .value _ => node.getValue key

namespace Config

/-- The export of what a configuration reads as fails exactly as reading its values one after the
other. -/
lemma map_toValue {tree : Tree} (h : tree.nodes.Descends) (options : Options) :
    ((Config.mk tree options).toValue true).map (fun _ => ()) =
      forM (tree.nodes.leaves tree.root) fun leaf => (tree.readLeaf leaf).map fun _ => () :=
  Tree.map_exportFrom h true tree.root

/-- All values are read without a failure exactly if each of them can be read. -/
lemma resolveAll_eq_ok_iff {tree : Tree} {treatment : Treatment} {depth : ℕ} {mapping : Mapping}
    (h : tree.Represents treatment depth mapping) (options : Options) :
    (Config.mk tree options).resolveAll = .ok () ↔ tree.AllRead := by
  rw [resolveAll, map_toValue h.descends, forM_eq_ok_iff, ← h.forall_leaves_iff]
  simp only [map_unit_eq_ok_iff]

/-- **Exporting a built configuration** with all values as they read succeeds exactly if every value
that the tree stores can be read, and it fails exactly with the error of the first one that cannot,
depth first and in the order of insertion. What it makes has the nodes and keys of the tree, in their
order, and under each key of a value what this key reads as. The places that are read are those of
all stored values, and the stored keys lead to what is stored under them.

**Proof sketch.** An export reads the values one after the other (`Tree.map_exportFrom`), and the
entries of the export of a node are those of the node, one by one (`Tree.exportFrom_eq_ok_iff`). -/
theorem toValue_resolved {treatment : Treatment} {mapping : Mapping} {label : String} {depth : ℕ}
    {tree : Tree} (hbuild : Tree.build treatment mapping label depth = .ok tree)
    (options : Options) :
    ((∃ exported, (Config.mk tree options).toValue true = .ok exported) ↔ tree.AllRead) ∧
    ((Config.mk tree options).resolveAll = .ok () ↔ tree.AllRead) ∧
    (∀ exported, (Config.mk tree options).toValue true = .ok exported →
      ∀ path node, tree.top.walk path = .ok node → ∃ entries : Mapping,
        exported.walk? (path.map normalizeKey) = some (.mapping entries) ∧
        List.Forall₂ (fun slot entry => entry.1 = slot.1 ∧
          node.readEntry slot.1 slot.2 = .ok entry.2) node.toList entries) ∧
    (∀ e, ((Config.mk tree options).toValue true = .error e ↔ tree.FirstFailure e) ∧
      ((Config.mk tree options).resolveAll = .error e ↔ tree.FirstFailure e)) ∧
    (∀ id key, (id, key) ∈ tree.nodes.leaves tree.root ↔
      id < tree.nodeCount ∧ ∃ raw, (key, .value raw) ∈ (Node.mk tree id).toList) ∧
    ∀ id key entry, id < tree.nodeCount → (key, entry) ∈ (Node.mk tree id).toList →
      (Node.mk tree id).getRaw? key = some entry := by
  have h := Tree.represents_of_build hbuild
  have hrun := map_toValue h.descends options
  have hok := resolveAll_eq_ok_iff h options
  have herror (e : Error) :
      (Config.mk tree options).resolveAll = .error e ↔ tree.FirstFailure e := by
    rw [resolveAll, hrun, forM_eq_error_iff, Tree.FirstFailure]
    simp only [map_unit_eq_ok_iff, map_eq_error_iff]
  refine ⟨?_, hok, fun exported hexport path node hwalk => ?_, fun e => ⟨?_, herror e⟩,
    fun id key => h.mem_leaves_iff, fun id key entry hid hmem => h.getRaw?_of_mem_toList hid hmem⟩
  · rw [← hok, resolveAll, map_unit_eq_ok_iff]
  · obtain ⟨htree, hlead⟩ := Node.walk_eq_ok_iff.mp hwalk
    obtain ⟨inner, hinner, hrest⟩ := Tree.walk?_of_leads h.descends hlead hexport
    obtain ⟨entries, rfl, hentries⟩ := (Tree.exportFrom_eq_ok_iff h.descends).mp hinner
    refine ⟨entries, ?_, ?_⟩
    · rw [← List.append_nil (path.map normalizeKey), hrest []]
      rfl
    · obtain ⟨_, id⟩ := node
      obtain rfl : _ = tree := htree
      rw [Node.toList, List.forall₂_map_left_iff]
      refine hentries.imp fun slot entry hentry => ⟨hentry.1, ?_⟩
      obtain ⟨key, slot⟩ := slot
      cases slot with
      | node child => exact hentry.2
      | value raw => exact hentry.2
  · rw [← herror e, resolveAll, map_eq_error_iff]

end Config

/-- A tree with two options, in a subsection of a section. -/
def Tree.pair : Tree :=
  ⟨#[⟨.options, [("x", .value .null), ("y", .value (.bool true))], some (some 1)⟩,
      ⟨.subsections, [("b", .node 0)], some (some 2)⟩,
      ⟨.sections, [("a", .node 1)], some none⟩], 2, ({} : Options).treatment⟩

/-- It is built from a mapping with upper-case keys. -/
lemma Tree.build_pair : build ({} : Options).treatment
    [("A", .mapping [("B", .mapping [("X", .null), ("Y", .bool true)])])] "ROOT" 0 = .ok pair :=
  rfl

/-- The two options can be read, and the export holds what they read as. -/
theorem Tree.toValue_pair :
    ∃ exported, (Config.mk pair {}).toValue true = .ok exported ∧
      exported.walk? ["a", "b"] = some (.mapping [("x", .null), ("y", .bool true)]) := by
  obtain ⟨hok, -, hentries, -⟩ := Config.toValue_resolved build_pair {}
  have hx : (Node.mk pair 0).getValue "x" = .ok .null := rfl
  have hy : (Node.mk pair 0).getValue "y" = .ok (.bool true) := rfl
  have hread : pair.AllRead := by
    intro id hid key raw hmem
    match id, hid with
    | 0, _ =>
      obtain ⟨rfl, -⟩ | ⟨rfl, -⟩ : key = "x" ∧ raw = .null ∨ key = "y" ∧ raw = .bool true := by
        simpa [Node.toList, Node.data, Arena.data, pair, entry] using hmem
      · exact ⟨_, hx⟩
      · exact ⟨_, hy⟩
    | 1, _ => simp [Node.toList, Node.data, Arena.data, pair, entry] at hmem
    | 2, _ => simp [Node.toList, Node.data, Arena.data, pair, entry] at hmem
  obtain ⟨exported, hexport⟩ := hok.mpr hread
  obtain ⟨entries, hwalk, hpairs⟩ := hentries exported hexport ["A", "B"] ⟨pair, 0⟩ rfl
  refine ⟨exported, hexport, ?_⟩
  cases hpairs with
  | @cons _ first _ _ hfirst hpairs =>
    cases hpairs with
    | @cons _ second _ _ hsecond hpairs =>
      cases hpairs
      obtain ⟨k, value⟩ := first
      obtain ⟨k', value'⟩ := second
      obtain ⟨rfl, hvalue⟩ := hfirst
      obtain ⟨rfl, hvalue'⟩ := hsecond
      obtain rfl := Except.ok.inj (hx.symm.trans hvalue)
      obtain rfl := Except.ok.inj (hy.symm.trans hvalue')
      exact hwalk

end ConfigTree
