import ConfigTree.Proofs.Config.Reading

set_option relaxedAutoImplicit false
set_option autoImplicit false

/-!
# The places of options

An option has its place below a section and a subsection. Two errors say that something is not at
such a place: that a key is missing at a node that is no part of a subsection of a section, and that
a text with references stands there. They are about trees that start below the level of sections.

In a tree that starts with sections the level of a node agrees with the number of keys that lead to
it, so that no read gives one of these errors: the full key of an option has three parts, and what a
missing key is reported as follows from the keys that lead to its node. In a tree that starts
further down no option has a full key of three parts. So a missing option is always reported by its
key alone, and the text of an option with a dollar sign is never read.

## Main definitions

* `ConfigTree.Error.isMisplaced`, `ConfigTree.Error.Placed` — the two errors, and the results
  without them.
* `ConfigTree.Treatment.KnowsPlaces` — a text at the place of an option is not called misplaced.
* `ConfigTree.Node.Fails`, `ConfigTree.Node.Lacks` — all reads of a key fail with one error.
* `ConfigTree.Node.Place` — the level of a node, its full keys and the errors about its missing
  keys.
* `ConfigTree.Tree.Placed` — all nodes have their place, and no read says that something has not.

## Main results

* `ConfigTree.Options.knowsPlaces_treatment` — the treatments that options ask for know places.
* `ConfigTree.Node.fails_of_get` — a look-up of a key that fails makes all reads of it fail.
* `ConfigTree.Tree.Represents.place` — the places of the nodes in a tree that starts with sections.
* `ConfigTree.Tree.build_placed` — the reads that say that something is misplaced.
-/

namespace ConfigTree

/-! ## Results that blame no place -/

namespace Error

variable {α β : Type} {result : Except Error α}

/-- The error says that a key or a text has no place below a section and a subsection. -/
def isMisplaced (e : Error) : Bool :=
  match e.kind with
  | .noKey _ | .interpolation (.misplaced _) => true
  | _ => false

/-- The result is no such error. -/
def Placed (result : Except Error α) : Prop :=
  ∀ e, result = .error e → e.isMisplaced = false

/-- A success blames no place. -/
lemma placed_ok (a : α) : Placed (.ok a) := by
  rintro e ⟨⟩

/-- An error of another kind blames no place. -/
lemma placed_error {e : Error} (h : e.isMisplaced = false) :
    Placed (.error e : Except Error α) := by
  rintro _ ⟨⟩
  exact h

/-- What becomes of a success plays no part. -/
lemma placed_map_iff {f : α → β} : Placed (result.map f) ↔ Placed result := by
  simp only [Placed, map_eq_error_iff]

/-- Steps that blame no place do not blame one together. -/
lemma Placed.bind {next : α → Except Error β} (h : Placed result)
    (hnext : ∀ a, result = .ok a → Placed (next a)) : Placed (result >>= next) := by
  cases result with
  | error e => exact placed_error (h e rfl)
  | ok a => exact hnext a rfl

/-- The use of a default blames no place, if the result does not. -/
lemma Placed.orDefault (h : Placed result) (fallback : α) :
    Placed (orDefault result fallback) := by
  rw [orDefault_eq]
  split
  · exact placed_ok fallback
  · exact h

/-- An error about the type of a value blames no place. -/
lemma isMisplaced_of_typeCoercion {e : Error} (h : e.kind = .typeCoercion) :
    e.isMisplaced = false := by
  rw [isMisplaced, h]

end Error

open Error (Placed placed_ok placed_error placed_map_iff)

/-- A text whose full key has three parts is not called misplaced when it is read. -/
def Treatment.KnowsPlaces (treatment : Treatment) : Prop :=
  ∀ arena id key raw origin, OptionPath.ofList? (arena.fullKey id key) = some origin →
    Placed (treatment.read arena id key raw)

/-- **The treatments that options ask for** know places. -/
lemma Options.knowsPlaces_treatment (options : Options) : options.treatment.KnowsPlaces := by
  intro arena id key raw origin horigin
  simp only [treatment, read, horigin]
  split
  · rw [placed_map_iff]
    intro e he
    obtain ⟨fault, hkind, hfault⟩ := Reference.exists_fault_of_substitute he
    cases fault with
    | misplaced level => exact absurd rfl (hfault level)
    | malformed | missing | tooDeep => rw [Error.isMisplaced, hkind]
  · exact placed_ok _

/-! ## Reads of a key that fail -/

/-- The path leads over the key of the node. -/
def Config.LeadsOver (config : Config) (path : String) (node : Node) (key : String) : Prop :=
  ∃ before after, Text.segments path = before ++ key :: after ∧ config.root.walk before = .ok node

namespace Node

/-- Every read of the key fails with the error, at the node and along each path that leads over the
key; a default stands in if the error is about what is missing. -/
structure Fails (node : Node) (key : String) (e : Error) : Prop where
  /-- The look-up of the key. -/
  get : node.get key = .error e
  /-- The look-up of the key with a default. -/
  getOr : ∀ fallback, node.getOr key fallback = Error.orDefault (.error e) fallback
  /-- The look-up of a node under the key. -/
  getNode : node.getNode key = .error e
  /-- The reads of the value under the key. -/
  read : ∀ {α : Type} (reading : Reading α), node.read reading key = .error e
  /-- These reads with a default. -/
  readOr : ∀ {α : Type} (reading : Reading α) fallback,
    node.readOr reading key fallback = Error.orDefault (.error e) fallback
  /-- The look-ups along paths. -/
  lookup : ∀ options path, path ≠ "" → (Config.mk node.tree options).LeadsOver path node key →
    (Config.mk node.tree options).lookup path = .error e
  /-- The reads of values along paths. -/
  readPath : ∀ options path, (Config.mk node.tree options).LeadsOver path node key →
    ∀ {α : Type} (reading : Reading α), (Config.mk node.tree options).read reading path = .error e
  /-- These reads with a default. -/
  readPathOr : ∀ options path, (Config.mk node.tree options).LeadsOver path node key →
    ∀ {α : Type} (reading : Reading α) fallback,
      (Config.mk node.tree options).readOr reading path fallback =
        Error.orDefault (.error e) fallback

/-- The node lacks the key: the look-ups of what is stored fail with the error as well. -/
structure Lacks (node : Node) (key : String) (e : Error) : Prop extends node.Fails key e where
  /-- The look-ups along paths of what is stored. -/
  lookupRaw : ∀ options path, path ≠ "" → (Config.mk node.tree options).LeadsOver path node key →
    (Config.mk node.tree options).lookupRaw path = .error e

end Node

/-- **A path over a key** that does not read as a node fails as this key does, in its middle or at
its end. -/
lemma Config.bind_parentOf_of_leadsOver {config : Config} {path key : String} {node : Node}
    {e : Error} {α : Type} {next : Node × String → Except Error α} (hpath : config.LeadsOver path node key)
    (hnode : node.getNode key = .error e) (hnext : next (node, key) = .error e) :
    config.parentOf path >>= next = .error e := by
  obtain ⟨before, after, hsegments, hwalk⟩ := hpath
  rcases parentSegments_of_segments hsegments with ⟨rfl, rfl, rfl⟩ | ⟨-, hparents⟩
  · rw [parentOf_of_walk hwalk]
    exact hnext
  · rw [parentOf, hparents, Node.walk_of_getNode_error hwalk hnode]
    rfl

namespace Node

variable {node : Node} {key : String} {e : Error}

/-- **A look-up of a key that fails** makes all reads of the key fail with its error. -/
lemma fails_of_get (h : node.get key = .error e) : node.Fails key e := by
  have hnode : node.getNode key = .error e := by rw [getNode, h]
  have hread {α : Type} (reading : Reading α) : node.read reading key = .error e :=
    read_of_get_error h reading
  have hpath {options : Options} {path : String}
      (hover : (Config.mk node.tree options).LeadsOver path node key) {α : Type}
      (reading : Reading α) : (Config.mk node.tree options).read reading path = .error e := by
    rw [Config.read_eq]
    exact Config.bind_parentOf_of_leadsOver hover hnode (hread reading)
  exact {
    get := h
    getOr fallback := by rw [getOr, h]
    getNode := hnode
    read := hread
    readOr reading fallback := by rw [readOr_eq, hread reading]
    lookup options path hne hover := by
      rw [Config.lookup, if_neg hne]
      exact Config.bind_parentOf_of_leadsOver hover hnode h
    readPath options path hover _ reading := hpath hover reading
    readPathOr options path hover _ reading fallback := by
      rw [Config.readOr_eq, hpath hover reading] }

/-- **A missing key** makes all reads fail with the error about it. -/
lemma lacks_of_not_mem (h : normalizeKey key ∉ node.keys) : node.Lacks key (node.notFound key) := by
  have hraw : node.getRaw? key = none := getRaw?_eq_none_iff.mpr h
  have hfails : node.Fails key (node.notFound key) := fails_of_get (by rw [get, hraw])
  refine ⟨hfails, fun options path hne hover => ?_⟩
  rw [Config.lookupRaw, if_neg hne]
  refine Config.bind_parentOf_of_leadsOver hover hfails.getNode ?_
  simp only [hraw]

/-- Where a node stands in a tree that starts with sections: its level, the stored keys that lead to
it, its full keys, and the errors about its missing keys. -/
inductive Place (node : Node) : Prop where
  /-- At the top. -/
  | sections (hlevel : node.level = .sections) (hfull : ∀ key, node.fullKey key = [key])
      (hlacks : ∀ key, normalizeKey key ∉ node.keys → node.Lacks key (.noSection key))
  /-- In a section. -/
  | subsections {first : String} (hlevel : node.level = .subsections)
      (hfirst : (first, .node node) ∈ node.tree.top.toList)
      (hfull : ∀ key, node.fullKey key = [first, key])
      (hlacks : ∀ key, normalizeKey key ∉ node.keys →
        node.Lacks key ((Error.noSubsection key).withPath (node.pathOf key)))
  /-- In a subsection of a section. -/
  | options {first second : String} {parent : Node} (hlevel : node.level = .options)
      (hfirst : (first, .node parent) ∈ node.tree.top.toList)
      (hsecond : (second, .node node) ∈ parent.toList)
      (hfull : ∀ key, node.fullKey key = [first, second, key])
      (hlacks : ∀ key, normalizeKey key ∉ node.keys →
        node.Lacks key (.noOption first second key))

end Node

/-! ## The places of nodes -/

/-- Options are the keys of the nodes two steps below the top. -/
lemma Level.ofDepth_eq_options_iff {depth : ℕ} : ofDepth depth = .options ↔ depth = 2 := by
  rcases depth with _ | _ | _ | depth <;> simp [ofDepth]

namespace Tree

variable {tree : Tree} {treatment : Treatment} {mapping : Mapping} {depth id : ℕ}

/-- A child that is stored under a key is listed under the normalized key. -/
lemma mem_toList_of_slot? {key : String} {child : ℕ}
    (h : tree.nodes.slot? id key = some (.node child)) :
    (normalizeKey key, .node ⟨tree, child⟩) ∈ (Node.mk tree id).toList :=
  List.mem_map.mpr ⟨_, Table.mem_of_get? h, rfl⟩

namespace Represents

/-- **The places of the nodes** in a tree that starts with sections.

**Proof sketch.** Some keys lead down to the node, the level of the node is their number, and the
way up from the node finds these keys in the form in which they are stored. -/
lemma place (h : tree.Represents treatment 0 mapping) (hid : id < tree.nodeCount) :
    (Node.mk tree id).Place := by
  obtain ⟨path, _, _, _, -, hlead, hholds⟩ := h.exists_holds hid
  have hfull (key : String) : (Node.mk tree id).fullKey key = path.map normalizeKey ++ [key] := by
    rw [Node.fullKey, Arena.fullKey, h.keysTo_of_leads hlead]
  have hlevel : (Node.mk tree id).level = Level.ofDepth (0 + path.length) := hholds.level_eq
  have hdepth : 0 + path.length < 3 := hholds.depth_lt
  have hlacks {e : String → Error} (hmissing : ∀ key, (Node.mk tree id).notFound key = e key)
      (key : String) (hkey : normalizeKey key ∉ (Node.mk tree id).keys) :
      (Node.mk tree id).Lacks key (e key) :=
    hmissing key ▸ Node.lacks_of_not_mem hkey
  rcases path with _ | ⟨first, _ | ⟨second, _ | ⟨third, more⟩⟩⟩
  · exact .sections hlevel hfull (hlacks fun key => by rw [Node.notFound, hlevel]; rfl)
  · cases hlead with
    | step hslot hlead =>
      cases hlead
      exact .subsections hlevel (mem_toList_of_slot? hslot) hfull
        (hlacks fun key => by rw [Node.notFound, hlevel]; rfl)
  · cases hlead with
    | step hfirst hlead =>
      cases hlead with
      | step hsecond hlead =>
        cases hlead
        refine .options hlevel (mem_toList_of_slot? hfirst) (mem_toList_of_slot? hsecond) hfull
          (hlacks fun key => ?_)
        rw [Node.notFound, hlevel, hfull]
        rfl
  · simp only [List.length_cons] at hdepth
    omega

end Represents

end Tree

/-! ## Reads in a tree that starts with sections -/

namespace Node

variable {node : Node}

/-- A node of options that has its place gives each of its keys a full path. -/
lemma Place.exists_origin (h : node.Place) (hlevel : node.level = .options) (key : String) :
    ∃ origin, OptionPath.ofList? (node.fullKey key) = some origin := by
  cases h with
  | sections hsections => simp [hsections] at hlevel
  | subsections hsubsections => simp [hsubsections] at hlevel
  | @options first second _ _ _ _ hfull => exact ⟨⟨first, second, key⟩, by rw [hfull]; rfl⟩

/-- **A look-up of a key** does not blame its place, if the node has its place and the treatment of
texts knows places. -/
lemma Place.placed_get (h : node.Place) (hknows : node.tree.treatment.KnowsPlaces) (key : String) :
    Placed (node.get key) := by
  by_cases hkey : normalizeKey key ∈ node.keys
  · rw [get]
    split
    · split
      · rename_i hlevel
        obtain ⟨origin, horigin⟩ := h.exists_origin hlevel key
        rw [placed_map_iff]
        exact hknows _ _ _ _ origin horigin
      · exact placed_ok _
    · exact placed_ok _
    · rename_i hnone
      exact absurd hkey (getRaw?_eq_none_iff.mp hnone)
  · cases h with
    | sections _ _ hlacks =>
      rw [(hlacks key hkey).get]
      exact placed_error rfl
    | subsections _ _ _ hlacks =>
      rw [(hlacks key hkey).get]
      exact placed_error rfl
    | options _ _ _ _ hlacks =>
      rw [(hlacks key hkey).get]
      exact placed_error rfl

/-- A read of a node blames no place, if the look-up of its key does not. -/
lemma placed_getNode {key : String} (h : Placed (node.get key)) : Placed (node.getNode key) := by
  rw [getNode]
  cases hget : node.get key with
  | error e => exact placed_error (h e hget)
  | ok entry =>
    cases entry with
    | node child => exact placed_ok child
    | value value => exact placed_error rfl

/-- Nor does a look at the stored entry. -/
lemma placed_getRaw? {key : String} (h : Placed (node.get key)) :
    Placed (match node.getRaw? key with
      | some entry => .ok entry
      | none => .error (node.notFound key)) := by
  cases hraw : node.getRaw? key with
  | some entry => exact placed_ok entry
  | none => exact placed_error (h _ (by rw [get, hraw]))

/-- Nor does a read of a value of any type. -/
lemma placed_read {α : Type} {key : String} (h : Placed (node.get key)) (reading : Reading α) :
    Placed (node.read reading key) := by
  cases hget : node.get key with
  | error e =>
    rw [read_of_get_error hget]
    exact placed_error (h e hget)
  | ok entry =>
    cases entry with
    | node child =>
      rw [read_of_get_node hget]
      exact placed_error rfl
    | value value =>
      rw [read_of_get_value hget]
      exact fun e he => Error.isMisplaced_of_typeCoercion (reading.kind_of_convert he)

end Node

namespace Tree

variable {tree : Tree} {treatment : Treatment} {mapping : Mapping} {id : ℕ}

/-- Every node of the tree has its place, and no read of the tree says that something has not: not
at a node, not along a path, and not in an export. -/
structure Placed (tree : Tree) : Prop where
  /-- The places of the nodes. -/
  place : ∀ id < tree.nodeCount, (Node.mk tree id).Place
  /-- The look-ups of keys. -/
  get : ∀ id < tree.nodeCount, ∀ key, Error.Placed ((Node.mk tree id).get key)
  /-- These look-ups with a default. -/
  getOr : ∀ id < tree.nodeCount, ∀ key fallback, Error.Placed ((Node.mk tree id).getOr key fallback)
  /-- The look-ups of nodes. -/
  getNode : ∀ id < tree.nodeCount, ∀ key, Error.Placed ((Node.mk tree id).getNode key)
  /-- The reads of values. -/
  read : ∀ id < tree.nodeCount, ∀ key {α : Type} (reading : Reading α),
    Error.Placed ((Node.mk tree id).read reading key)
  /-- These reads with a default. -/
  readOr : ∀ id < tree.nodeCount, ∀ key {α : Type} (reading : Reading α) fallback,
    Error.Placed ((Node.mk tree id).readOr reading key fallback)
  /-- The exports of nodes. -/
  toValue : ∀ id < tree.nodeCount, ∀ resolved, Error.Placed ((Node.mk tree id).toValue resolved)
  /-- The walks along keys. -/
  walk : ∀ id < tree.nodeCount, ∀ keys, Error.Placed ((Node.mk tree id).walk keys)
  /-- The look-ups along paths. -/
  lookup : ∀ options path, Error.Placed ((Config.mk tree options).lookup path)
  /-- These look-ups of what is stored. -/
  lookupRaw : ∀ options path, Error.Placed ((Config.mk tree options).lookupRaw path)
  /-- The reads of values along paths. -/
  readPath : ∀ options path {α : Type} (reading : Reading α),
    Error.Placed ((Config.mk tree options).read reading path)
  /-- These reads with a default. -/
  readPathOr : ∀ options path {α : Type} (reading : Reading α) fallback,
    Error.Placed ((Config.mk tree options).readOr reading path fallback)
  /-- The read of all values. -/
  resolveAll : ∀ options, Error.Placed (Config.mk tree options).resolveAll

namespace Represents

/-- Keys of a node of the tree lead to nodes of the tree. -/
lemma lt_nodeCount_of_leads {depth : ℕ} (h : tree.Represents treatment depth mapping)
    {keys : List String} {target : ℕ} (hlead : tree.nodes.Leads id keys target)
    (hid : id < tree.nodeCount) : target < tree.nodeCount := by
  induction hlead with
  | here => exact hid
  | step hslot _ ih =>
    obtain ⟨_, _, _, _, -, -, hholds⟩ := h.exists_holds hid
    obtain ⟨_, _, -, hlt, -⟩ := hholds.of_slot? hslot
    exact ih (Nat.lt_trans hlt hid)

variable (h : tree.Represents treatment 0 mapping) (hknows : treatment.KnowsPlaces)
include h hknows

/-- No look-up of a key in such a tree blames a place. -/
lemma placed_get (hid : id < tree.nodeCount) (key : String) :
    Error.Placed ((Node.mk tree id).get key) :=
  (h.place hid).placed_get (h.treatment_eq ▸ hknows) key

/-- A walk goes from one node of the tree to the next, and each of its steps is a look-up there. -/
lemma placed_walk (hid : id < tree.nodeCount) (keys : List String) :
    Error.Placed ((Node.mk tree id).walk keys) := by
  induction keys generalizing id with
  | nil => exact placed_ok _
  | cons key rest ih =>
    refine (Node.placed_getNode (h.placed_get hknows hid key)).bind fun child hchild => ?_
    obtain ⟨htree, hslot⟩ := Node.getNode_eq_ok_iff.mp hchild
    obtain ⟨_, childId⟩ := child
    obtain rfl : _ = tree := htree
    exact ih (h.lt_nodeCount_of_leads (.step hslot (.here _)) hid)

/-- An export fails only as one of the reads does that it consists of. -/
lemma placed_toValue (id : ℕ) (resolved : Bool) :
    Error.Placed ((Node.mk tree id).toValue resolved) := by
  rw [← placed_map_iff (f := fun _ => ()), Node.toValue, map_exportFrom h.descends]
  intro e he
  obtain ⟨before, leaf, after, hleaves, -, hleaf⟩ := forM_eq_error_iff.mp he
  cases resolved with
  | false => cases hleaf
  | true =>
    have hmem : leaf ∈ tree.nodes.leaves id := by simp [hleaves]
    obtain ⟨-, raw, hraw⟩ := of_mem_leaves h.descends hmem
    have hid := lt_nodeCount_of_mem_toList (mem_toList_value_iff.mpr hraw)
    exact Node.placed_read (h.placed_get hknows hid leaf.2) .value e (map_eq_error_iff.mp hleaf)

/-- What happens at the end of a path happens at a node of the tree. -/
lemma placed_bind_parentOf {α : Type} {next : Node × String → Except Error α}
    (hnext : ∀ id < tree.nodeCount, ∀ key, Error.Placed (next (⟨tree, id⟩, key)))
    (options : Options) (path : String) :
    Error.Placed ((Config.mk tree options).parentOf path >>= next) := by
  have hroot : tree.root < tree.nodeCount := by
    rw [nodeCount, h.size_eq]
    exact Nat.lt_succ_self _
  have hparent : Error.Placed ((Config.mk tree options).parentOf path) :=
    placed_map_iff.mpr (h.placed_walk hknows hroot (Config.parentSegments path))
  refine hparent.bind fun position hposition => ?_
  obtain ⟨⟨_, target⟩, hwalk, rfl⟩ := map_eq_ok_iff.mp hposition
  obtain ⟨htree, hlead⟩ := Node.walk_eq_ok_iff.mp hwalk
  obtain rfl : _ = tree := htree
  exact hnext target (h.lt_nodeCount_of_leads hlead hroot) _

/-- **A tree that starts with sections**, with a treatment that knows places. -/
lemma placed : tree.Placed := by
  have hread {id : ℕ} (hid : id < tree.nodeCount) (key : String) {α : Type} (reading : Reading α) :
      Error.Placed ((Node.mk tree id).read reading key) :=
    Node.placed_read (h.placed_get hknows hid key) reading
  have hpath (options : Options) (path : String) {α : Type} (reading : Reading α) :
      Error.Placed ((Config.mk tree options).read reading path) := by
    rw [Config.read_eq]
    exact h.placed_bind_parentOf hknows (fun id hid key => hread hid key reading) options path
  exact {
    place id hid := h.place hid
    get id hid key := h.placed_get hknows hid key
    getOr id hid key fallback := (h.placed_get hknows hid key).orDefault fallback
    getNode id hid key := Node.placed_getNode (h.placed_get hknows hid key)
    read id hid key _ reading := hread hid key reading
    readOr id hid key _ reading fallback := by
      rw [Node.readOr_eq]
      exact (hread hid key reading).orDefault fallback
    toValue id _ resolved := h.placed_toValue hknows id resolved
    walk id hid keys := h.placed_walk hknows hid keys
    lookup options path := by
      rw [Config.lookup]
      split
      · exact placed_ok _
      · refine h.placed_bind_parentOf hknows (fun id hid key => ?_) options path
        exact h.placed_get hknows hid key
    lookupRaw options path := by
      rw [Config.lookupRaw]
      split
      · exact placed_ok _
      · refine h.placed_bind_parentOf hknows (fun id hid key => ?_) options path
        exact Node.placed_getRaw? (h.placed_get hknows hid key)
    readPath options path _ reading := hpath options path reading
    readPathOr options path _ reading fallback := by
      rw [Config.readOr_eq]
      exact (hpath options path reading).orDefault fallback
    resolveAll options := placed_map_iff.mpr (h.placed_toValue hknows tree.root true) }

end Represents

/-! ## Reads in a tree that starts further down -/

namespace Represents

variable {depth : ℕ}

/-- No full key has three parts in a tree that starts below the level of sections. -/
lemma ofList?_fullKey_eq_none (h : tree.Represents treatment depth mapping) (hdepth : 0 < depth)
    (hid : id < tree.nodeCount) (hlevel : (Node.mk tree id).level = .options) (key : String) :
    OptionPath.ofList? ((Node.mk tree id).fullKey key) = none := by
  obtain ⟨path, _, _, _, -, hlead, hholds⟩ := h.exists_holds hid
  have hlength : depth + path.length = 2 :=
    Level.ofDepth_eq_options_iff.mp (hholds.level_eq.symm.trans hlevel)
  rw [Node.fullKey, Arena.fullKey, h.keysTo_of_leads hlead]
  rcases path with _ | ⟨first, _ | ⟨second, more⟩⟩
  · rfl
  · rfl
  · simp only [List.length_cons] at hlength
    omega

/-- The text of an option with a dollar sign is called misplaced. -/
lemma get_of_hasDollar {autoInfer : Bool}
    (h : tree.Represents (Options.treatment ⟨autoInfer, true⟩) depth mapping) (hdepth : 0 < depth)
    (hid : id < tree.nodeCount) (hlevel : (Node.mk tree id).level = .options) {key raw : String}
    (hkey : (Node.mk tree id).getRaw? key = some (.value (.string raw)))
    (hraw : hasDollar raw = true) :
    (Node.mk tree id).get key = .error (.misplacedReference .options) := by
  have hplace : OptionPath.ofList? (tree.nodes.fullKey id key) = none :=
    h.ofList?_fullKey_eq_none hdepth hid hlevel key
  have hdata : (tree.nodes.data id).level = .options := hlevel
  have hsubstitutes : Options.substitutes ⟨autoInfer, true⟩ raw = true := hraw
  simp only [Node.get, hkey, hlevel, if_true, Node.resolve, h.treatment_eq, Options.treatment,
    Options.read, hsubstitutes, hplace, hdata]
  rfl

/-- No other read of a stored value fails. -/
lemma eq_misplaced_of_getValue {autoInfer : Bool}
    (h : tree.Represents (Options.treatment ⟨autoInfer, true⟩) depth mapping) (hdepth : 0 < depth)
    {key : String} {stored : Value} {e : Error}
    (hkey : (Node.mk tree id).getRaw? key = some (.value stored))
    (hvalue : (Node.mk tree id).getValue key = .error e) : e = .misplacedReference .options := by
  cases stored with
  | string raw =>
    by_cases hlevel : (Node.mk tree id).level = .options
    · cases hraw : hasDollar raw with
      | false =>
        rw [Node.getValue_of_no_references h.treatment_eq hkey hraw] at hvalue
        cases hvalue
      | true =>
        have hid := lt_nodeCount_of_slot? (Node.getRaw?_eq_value_iff.mp hkey)
        have hget := h.get_of_hasDollar hdepth hid hlevel hkey hraw
        rw [Node.getValue, hget] at hvalue
        exact (Except.error.inj hvalue).symm
    · rw [Node.getValue_of_level_ne hkey hlevel] at hvalue
      cases hvalue
  | _ =>
    rw [Node.getValue_of_not_string hkey rfl] at hvalue
    cases hvalue

/-- The read of all values fails if there is such a text. -/
lemma resolveAll_of_hasDollar {autoInfer : Bool}
    (h : tree.Represents (Options.treatment ⟨autoInfer, true⟩) depth mapping) (hdepth : 0 < depth)
    (hid : id < tree.nodeCount) (hlevel : (Node.mk tree id).level = .options) {key raw : String}
    (hkey : (Node.mk tree id).getRaw? key = some (.value (.string raw)))
    (hraw : hasDollar raw = true) (options : Options) :
    (Config.mk tree options).resolveAll = .error (.misplacedReference .options) := by
  cases hall : (Config.mk tree options).resolveAll with
  | ok _ =>
    have hmem := Node.mem_toList_of_getRaw? hkey
    obtain ⟨value, hvalue⟩ := (Config.resolveAll_eq_ok_iff h options).mp hall id hid _ _ hmem
    have hget := h.get_of_hasDollar hdepth hid hlevel (h.getRaw?_of_mem_toList hid hmem) hraw
    rw [Node.getValue, hget] at hvalue
    cases hvalue
  | error e =>
    rw [Config.resolveAll, Config.map_toValue h.descends, forM_eq_error_iff] at hall
    obtain ⟨before, ⟨place, k⟩, after, hleaves, -, hleaf⟩ := hall
    have hplaces : (place, k) ∈ tree.nodes.leaves tree.root := by simp [hleaves]
    obtain ⟨hplace, stored, hmem⟩ := h.mem_leaves_iff.mp hplaces
    have hstored := h.getRaw?_of_mem_toList hplace hmem
    rw [h.eq_misplaced_of_getValue hdepth hstored (map_eq_error_iff.mp hleaf)]

/-- An option that is missing further down is reported by its key alone. -/
lemma notFound_of_options (h : tree.Represents treatment depth mapping) (hdepth : 0 < depth)
    (hid : id < tree.nodeCount) (hlevel : (Node.mk tree id).level = .options) (key : String) :
    (Node.mk tree id).notFound key =
      (Error.noKey key).withPath ((Node.mk tree id).pathOf key) := by
  rw [Node.notFound, hlevel]
  simp only [h.ofList?_fullKey_eq_none hdepth hid hlevel key]

end Represents

/-- **What is called misplaced.** The treatments that options ask for know places. In a tree that
starts with sections and whose treatment knows places, as all trees of INI, JSON and YAML texts do,
no read at any node, of any key and along any path says that a key or a text has no place. Each node
has its place there: a missing key is reported as a missing section, subsection or option as the
level of the node says, and a missing option with the two stored keys that lead to its node and the
key that was asked for. In a tree that starts further down and in which references are substituted,
each read of the text of an option with a dollar sign says that it is misplaced, so does the read of
all values, and each read of a missing option reports its key alone.

**Proof sketch.** The level of a node is recorded from the depth at which it is built, and full keys
are found on the way up. Both agree with the number of keys that lead down to the node
(`Represents.place`, `Represents.ofList?_fullKey_eq_none`). Reads of values, along paths and in
exports fail only as look-ups of keys do, or for the type of a value. -/
theorem build_placed :
    (∀ options : Options, options.treatment.KnowsPlaces) ∧
    (∀ treatment mapping label tree, Treatment.KnowsPlaces treatment →
      build treatment mapping label 0 = .ok tree → tree.Placed) ∧
    (∀ options source config, Source.load options source = .ok config → config.tree.Placed) ∧
    ∀ autoInfer mapping label depth tree, 0 < depth →
      build (Options.treatment ⟨autoInfer, true⟩) mapping label depth = .ok tree →
        ∀ id < tree.nodeCount, (Node.mk tree id).level = .options →
          (∀ key raw, (Node.mk tree id).getRaw? key = some (.value (.string raw)) →
            hasDollar raw = true → (Node.mk tree id).Fails key (.misplacedReference .options) ∧
              ∀ options, (Config.mk tree options).resolveAll =
                .error (.misplacedReference .options)) ∧
          ∀ key, normalizeKey key ∉ (Node.mk tree id).keys →
            (Node.mk tree id).Lacks key
              ((Error.noKey key).withPath ((Node.mk tree id).pathOf key)) := by
  refine ⟨Options.knowsPlaces_treatment, fun treatment mapping label tree hknows hbuild => ?_,
    fun options source config hload => ?_,
    fun autoInfer mapping label depth tree hdepth hbuild id hid hlevel => ?_⟩
  · exact (represents_of_build hbuild).placed hknows
  · obtain ⟨mapping, -, hconfig⟩ := bind_eq_ok_iff.mp hload
    obtain ⟨tree, hbuild, rfl⟩ := map_eq_ok_iff.mp hconfig
    exact (represents_of_build hbuild).placed options.knowsPlaces_treatment
  · have h := represents_of_build hbuild
    refine ⟨fun key raw hkey hraw => ?_, fun key hkey => ?_⟩
    · exact ⟨Node.fails_of_get (h.get_of_hasDollar hdepth hid hlevel hkey hraw),
        h.resolveAll_of_hasDollar hdepth hid hlevel hkey hraw⟩
    · rw [← h.notFound_of_options hdepth hid hlevel key]
      exact Node.lacks_of_not_mem hkey

/-- A mapping with one option, whose text has a reference. -/
def shallowMapping : Mapping :=
  [("sub", .mapping [("x", .string "$\x7ba.b.c\x7d")])]

/-- In a tree that starts with subsections, a read of this option and one of an option that is
missing. -/
theorem build_placed_shallow :
    ∃ tree, build (Options.treatment {}) shallowMapping "ROOT" 1 = .ok tree ∧
      (Config.mk tree {}).getIntOr "sub.x" 7 = .error (.misplacedReference .options) ∧
      (∃ e, e.kind = .noKey "Y" ∧ (Node.mk tree 0).getInt "Y" = .error e) ∧
      (Config.mk tree {}).getIntOr "sub.Y" 7 = .ok 7 := by
  let tree : Tree := ⟨#[⟨.options, [("x", .value (.string "$\x7ba.b.c\x7d"))], some (some 1)⟩,
    ⟨.subsections, [("sub", .node 0)], some none⟩], 1, Options.treatment {}⟩
  have hbuild : build (Options.treatment {}) shallowMapping "ROOT" 1 = .ok tree := rfl
  obtain ⟨-, -, -, hbelow⟩ := build_placed
  obtain ⟨hdollar, hmissing⟩ := hbelow true _ _ 1 tree (by decide) hbuild 0 (by decide) rfl
  obtain ⟨hx, -⟩ := hdollar "x" "$\x7ba.b.c\x7d" rfl (by decide)
  have hy := hmissing "Y" (by decide)
  have hover (key : String) (hkey : Text.segments ("sub." ++ key) = ["sub"] ++ key :: []) :
      (Config.mk tree {}).LeadsOver ("sub." ++ key) ⟨tree, 0⟩ key :=
    ⟨["sub"], [], hkey, rfl⟩
  refine ⟨tree, hbuild, ?_, ?_, ?_⟩
  · exact hx.readPathOr {} "sub.x" (hover "x" (by decide)) .integer 7
  · exact ⟨_, rfl, hy.read .integer⟩
  · exact hy.readPathOr {} "sub.Y" (hover "Y" (by decide)) .integer 7

end Tree

end ConfigTree
