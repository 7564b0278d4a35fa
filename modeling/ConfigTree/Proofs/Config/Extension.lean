import ConfigTree.Proofs.Config.TypedReference

set_option relaxedAutoImplicit false
set_option autoImplicit false

/-!
# Reads in extended configurations

A read that succeeds goes on to give the same result if more is added to the mapping of a
configuration, and if the entries of the mapping are put in another order: the values it needs are
found by the same keys, although they may stand at other nodes. Only the reads that fail can change.

## Main definitions

* `ConfigTree.Mapping.Within` — all values of a mapping are found in another one, by the same keys.
* `ConfigTree.Mapping.Rearranged` — the same entries in another order, at every depth.
* `ConfigTree.Tree.Within` — all values of a tree are found in another one, by the same keys.
* `ConfigTree.Config.Preserves` — the reads along a path that succeed in one configuration give the
  same in another one.

## Main results

* `ConfigTree.Reference.substitute_mono` — a substitution needs no more options than it finds.
* `ConfigTree.Tree.Represents.within` — trees of mappings, one of which is within the other.
* `ConfigTree.Tree.Within.getValue` — a key reads the same in both trees.
* `ConfigTree.Config.build_reads_stable` — reads are stable under additions and rearrangements.
-/

namespace ConfigTree

open Mapping (Reaches)

/-! ## Mappings -/

namespace Mapping

/-- Every value of the mapping is found in the other one, at the end of the same path and under the same
key, up to their spelling. -/
def Within (mapping more : Mapping) : Prop :=
  ∀ path key value, mapping.LeafAt path key value → ∃ path' key', more.LeafAt path' key' value ∧
    path'.map normalizeKey = path.map normalizeKey ∧ normalizeKey key' = normalizeKey key

/-- The two mappings have the same entries, in whatever order, and so have the mappings in them. -/
inductive Rearranged : Mapping → Mapping → Prop where
  /-- There are no entries. -/
  | nil : Rearranged [] []
  /-- The first entry is a value. -/
  | leaf {key : String} {value : Value} {rest rest' : Mapping} (hvalue : value.asMapping? = none)
      (hrest : Rearranged rest rest') : Rearranged ((key, value) :: rest) ((key, value) :: rest')
  /-- The first entry is a mapping. -/
  | node {key : String} {inner inner' rest rest' : Mapping} (hinner : Rearranged inner inner')
      (hrest : Rearranged rest rest') :
      Rearranged ((key, .mapping inner) :: rest) ((key, .mapping inner') :: rest')
  /-- The first two entries change places. -/
  | swap (first second : String × Value) (rest : Mapping) :
      Rearranged (first :: second :: rest) (second :: first :: rest)
  /-- One order after the other. -/
  | trans {mapping mapping' mapping'' : Mapping} (h : Rearranged mapping mapping')
      (h' : Rearranged mapping' mapping'') : Rearranged mapping mapping''

namespace Rearranged

variable {mapping mapping' : Mapping}

/-- A mapping has its own entries. -/
lemma refl (mapping : Mapping) : Rearranged mapping mapping := by
  induction mapping using Mapping.induction with
  | nil => exact .nil
  | leaf key value rest hvalue ih => exact .leaf hvalue ih
  | node key inner rest ihInner ih => exact .node ihInner ih

/-- What is rearranged can be put back. -/
lemma symm (h : Rearranged mapping mapping') : Rearranged mapping' mapping := by
  induction h with
  | nil => exact .nil
  | leaf hvalue _ ih => exact .leaf hvalue ih
  | node _ _ ihInner ih => exact .node ihInner ih
  | swap first second rest => exact .swap second first rest
  | trans _ _ ih ih' => exact .trans ih' ih

/-- The keys are the same, in some order. -/
lemma keys_perm (h : Rearranged mapping mapping') : mapping.keys.Perm mapping'.keys := by
  induction h with
  | nil => exact .nil
  | leaf _ _ ih => exact ih.cons _
  | node _ _ _ ih => exact ih.cons _
  | swap first second rest => exact .swap second.1 first.1 _
  | trans _ _ ih ih' => exact ih.trans ih'

/-- The values are entries of both mappings. -/
lemma mem_of_leaf (h : Rearranged mapping mapping') {key : String} {value : Value}
    (hvalue : value.asMapping? = none) (hmem : (key, value) ∈ mapping) :
    (key, value) ∈ mapping' := by
  induction h with
  | nil => exact hmem
  | leaf _ _ ih =>
    rcases List.mem_cons.mp hmem with heq | hmem
    · exact heq ▸ List.mem_cons_self
    · exact List.mem_cons_of_mem _ (ih hmem)
  | node _ _ _ ih =>
    rcases List.mem_cons.mp hmem with heq | hmem
    · obtain ⟨-, rfl⟩ := Prod.mk.inj heq
      simp [Value.asMapping?] at hvalue
    · exact List.mem_cons_of_mem _ (ih hmem)
  | swap first second rest => exact (List.Perm.swap second first rest).mem_iff.mp hmem
  | trans _ _ ih ih' => exact ih' (ih hmem)

/-- A mapping in the one is rearranged in the other. -/
lemma exists_mem (h : Rearranged mapping mapping') {key : String} {inner : Mapping}
    (hmem : (key, .mapping inner) ∈ mapping) :
    ∃ inner', (key, .mapping inner') ∈ mapping' ∧ Rearranged inner inner' := by
  induction h generalizing inner with
  | nil => simp at hmem
  | leaf hvalue _ ih =>
    rcases List.mem_cons.mp hmem with heq | hmem
    · obtain ⟨-, rfl⟩ := Prod.mk.inj heq
      simp [Value.asMapping?] at hvalue
    · obtain ⟨inner', hmem', hinner⟩ := ih hmem
      exact ⟨inner', List.mem_cons_of_mem _ hmem', hinner⟩
  | @node k first first' _ _ hfirst _ _ ih =>
    rcases List.mem_cons.mp hmem with heq | hmem
    · obtain ⟨rfl, hvalue⟩ := Prod.mk.inj heq
      obtain rfl := Value.mapping.inj hvalue
      exact ⟨first', List.mem_cons_self, hfirst⟩
    · obtain ⟨inner', hmem', hinner⟩ := ih hmem
      exact ⟨inner', List.mem_cons_of_mem _ hmem', hinner⟩
  | swap first second rest =>
    exact ⟨inner, (List.Perm.swap second first rest).mem_iff.mp hmem, refl inner⟩
  | trans _ _ ih ih' =>
    obtain ⟨inner', hmem', hinner⟩ := ih hmem
    obtain ⟨inner'', hmem'', hinner'⟩ := ih' hmem'
    exact ⟨inner'', hmem'', hinner.trans hinner'⟩

/-- What a path leads to in the one, it leads to in the other, rearranged. -/
lemma exists_reaches (h : Rearranged mapping mapping') {path : List String} {target : Mapping}
    (hreach : Reaches mapping path target) :
    ∃ target', Reaches mapping' path target' ∧ Rearranged target target' := by
  induction hreach generalizing mapping' with
  | here => exact ⟨mapping', .here mapping', h⟩
  | step hmem _ ih =>
    obtain ⟨inner', hmem', hinner⟩ := h.exists_mem hmem
    obtain ⟨target', hreach', htarget⟩ := ih hinner
    exact ⟨target', .step hmem' hreach', htarget⟩

/-- A rearranged mapping has the same values at the same paths. -/
lemma within (h : Rearranged mapping mapping') : mapping.Within mapping' := by
  rintro path key value ⟨inner, hreach, hmem, hvalue⟩
  obtain ⟨inner', hreach', hinner⟩ := h.exists_reaches hreach
  exact ⟨path, key, ⟨inner', hreach', hinner.mem_of_leaf hvalue hmem, hvalue⟩, rfl, rfl⟩

end Rearranged

end Mapping

/-! ## Substitutions with more options -/

namespace Reference

variable {lookup lookup' : OptionPath → Option Value} {origin : OptionPath}

/-- A move that does not fail finds all options that it looks up, and goes the same way if more options
can be found. -/
lemma Machine.step_mono
    (hlookup : ∀ path value, lookup path = some value → lookup' path = some value)
    (origin : OptionPath) (machine : Machine) :
    (∃ e, machine.step lookup origin = .stop (.error e)) ∨
      machine.step lookup' origin = machine.step lookup origin := by
  obtain ⟨output, trail, stack⟩ := machine
  cases stack with
  | nil => exact .inr rfl
  | cons frame waiting =>
    obtain ⟨turn, hturn⟩ := frame.exists_turns lookup origin
    rw [hturn.step_eq]
    cases hturn with
    | beyond | malformed | nowhere | missing => exact .inl ⟨_, rfl⟩
    | plain hhops hscanned =>
      have hturn' : frame.Turns lookup' origin (.write frame.text) := .plain hhops hscanned
      exact .inr (hturn'.step_eq _ _ _)
    | @done text hhops hscanned hscan =>
      have hturn' : frame.Turns lookup' origin (.write text) := .done hhops hscanned hscan
      exact .inr (hturn'.step_eq _ _ _)
    | @follow text _ _ tail path value hhops hscanned hscan hpath hvalue =>
      have hturn' : frame.Turns lookup' origin (.follow text path value tail) :=
        .follow hhops hscanned hscan hpath (hlookup path value hvalue)
      exact .inr (hturn'.step_eq _ _ _)

/-- **A substitution that succeeds** gives the same if more options can be found.

**Proof sketch.** Induction along the run of the machine, whose moves are the same. -/
lemma substitute_mono
    (hlookup : ∀ path value, lookup path = some value → lookup' path = some value)
    {raw text : String} (h : substitute lookup origin raw = .ok text) :
    substitute lookup' origin raw = .ok text := by
  obtain ⟨output, hrun, htext⟩ := map_eq_ok_iff.mp h
  refine map_eq_ok_iff.mpr ⟨output, ?_, htext⟩
  generalize start origin raw = machine at hrun ⊢
  induction machine using Machine.run.induct lookup origin with
  | case1 machine next hstep ih =>
    rw [Machine.run_of_step_next hstep] at hrun
    rcases machine.step_mono hlookup origin with ⟨e, he⟩ | hsame
    · simp [hstep] at he
    · rw [Machine.run_of_step_next (hsame.trans hstep)]
      exact ih hrun
  | case2 machine result hstep =>
    rw [Machine.run_of_step_stop hstep] at hrun
    obtain rfl : result = .ok output := hrun
    rcases machine.step_mono hlookup origin with ⟨e, he⟩ | hsame
    · simp [hstep] at he
    · rw [Machine.run_of_step_stop (hsame.trans hstep)]

end Reference

/-! ## Trees -/

namespace Tree

variable {tree tree' : Tree} {options : Options} {depth : ℕ} {mapping more : Mapping}

/-- Where keys lead to a value in the first tree, they lead to the same value in the second one. -/
def Within (tree tree' : Tree) : Prop :=
  ∀ path id key stored, tree.nodes.Leads tree.root path id →
    tree.nodes.slot? id key = some (.value stored) →
    ∃ id', tree'.nodes.Leads tree'.root path id' ∧
      tree'.nodes.slot? id' key = some (.value stored)

/-- **Trees of mappings**, one of which is within the other.

**Proof sketch.** Every stored value comes from the first mapping, at the end of a path with the keys
that lead to it; the value that the second mapping has there is stored where these keys lead. -/
lemma Represents.within (h : tree.Represents options.treatment depth mapping)
    (h' : tree'.Represents options.treatment depth more) (hwithin : mapping.Within more) :
    tree.Within tree' := by
  intro path id key stored hlead hslot
  obtain ⟨path₀, inner, k, value, hreach, hlead₀, hmem, hkey, hvalue, rfl⟩ := h.exists_leaf hslot
  have hpath₀ : path₀.map normalizeKey = path.map normalizeKey :=
    (h.keysTo_of_leads hlead₀).symm.trans (h.keysTo_of_leads hlead)
  obtain ⟨path', key', ⟨inner', hreach', hmem', -⟩, hpath', hkey'⟩ :=
    hwithin path₀ k value ⟨inner, hreach, hmem, hvalue⟩
  obtain ⟨⟨_, id'⟩, hwalk, htree, hstored⟩ := h'.getRaw?_of_mem hreach'
  obtain rfl : _ = tree' := htree
  refine ⟨id', ?_, ?_⟩
  · rw [← Arena.leads_map_normalizeKey_iff, ← hpath₀, ← hpath', Arena.leads_map_normalizeKey_iff]
    exact (Node.walk_eq_ok_iff.mp hwalk).2
  · rw [← Arena.slot?_normalizeKey, ← hkey, ← hkey', Arena.slot?_normalizeKey]
    exact Node.getRaw?_eq_value_iff.mp (hstored key' value hmem' hvalue)

/-- An option that is found from the top of the first tree is found from the top of the second. -/
lemma Within.stored? (hwithin : tree.Within tree') (path : OptionPath) (value : Value)
    (h : tree.nodes.stored? tree.root path = some value) :
    tree'.nodes.stored? tree'.root path = some value := by
  obtain ⟨target, hlead, hslot⟩ := Arena.stored?_eq_some_iff.mp h
  exact Arena.stored?_eq_some_iff.mpr (hwithin _ target _ value hlead hslot)

/-- A text reads the same in both trees, where the same keys lead to it. -/
lemma Within.read (h : tree.Represents options.treatment depth mapping)
    (h' : tree'.Represents options.treatment depth more) (hwithin : tree.Within tree')
    {path : List String} {id id' : ℕ} (hlead : tree.nodes.Leads tree.root path id)
    (hlead' : tree'.nodes.Leads tree'.root path id') (hid : id < tree.nodeCount)
    (hid' : id' < tree'.nodeCount) {key raw : String} {value : Value}
    (hread : options.read tree.nodes id key raw = .ok value) :
    options.read tree'.nodes id' key raw = .ok value := by
  have hfull : tree'.nodes.fullKey id' key = tree.nodes.fullKey id key := by
    rw [Arena.fullKey, Arena.fullKey, h'.keysTo_of_leads hlead', h.keysTo_of_leads hlead]
  have htop := h.topOf_eq (h.le_root hid)
  have htop' := h'.topOf_eq (h'.le_root hid')
  simp only [Options.read, hfull, htop, htop'] at hread ⊢
  split at hread
  · rename_i hsubstitutes
    rw [if_pos hsubstitutes]
    split at hread
    · rename_i origin horigin
      obtain ⟨text, htext, hvalue⟩ := map_eq_ok_iff.mp hread
      exact map_eq_ok_iff.mpr ⟨text, Reference.substitute_mono hwithin.stored? htext, hvalue⟩
    · simp at hread
  · rename_i hsubstitutes
    rw [if_neg hsubstitutes]
    exact hread

/-- **A key reads the same** in both trees, if the same keys lead to its node.

**Proof sketch.** The same value is stored there, at the same level. -/
lemma Within.getValue (h : tree.Represents options.treatment depth mapping)
    (h' : tree'.Represents options.treatment depth more) (hwithin : tree.Within tree')
    {path : List String} {id : ℕ} (hlead : tree.nodes.Leads tree.root path id) {key : String}
    {value : Value} (hvalue : (Node.mk tree id).getValue key = .ok value) :
    ∃ id', tree'.nodes.Leads tree'.root path id' ∧
      (Node.mk tree' id').getValue key = .ok value := by
  obtain ⟨raw, hslot⟩ := Node.exists_slot_of_getValue hvalue
  obtain ⟨id', hlead', hslot'⟩ := hwithin path id key raw hlead hslot
  refine ⟨id', hlead', ?_⟩
  have hid := Represents.lt_nodeCount_of_slot? hslot
  have hid' := Represents.lt_nodeCount_of_slot? hslot'
  have hlevel : (Node.mk tree' id').level = (Node.mk tree id).level :=
    (h'.level_of_leads hlead' hid').trans (h.level_of_leads hlead hid).symm
  have hkey : (Node.mk tree id).getRaw? key = some (.value raw) :=
    Node.getRaw?_eq_value_iff.mpr hslot
  have hkey' : (Node.mk tree' id').getRaw? key = some (.value raw) :=
    Node.getRaw?_eq_value_iff.mpr hslot'
  cases hstring : raw.isString with
  | false =>
    rw [Node.getValue_of_not_string hkey hstring] at hvalue
    rw [Node.getValue_of_not_string hkey' hstring, hvalue]
  | true =>
    cases raw with
    | string text =>
      by_cases hoptions : (Node.mk tree id).level = .options
      · rw [Node.getValue_of_string hkey hoptions, Node.resolve, h.treatment_eq] at hvalue
        rw [Node.getValue_of_string hkey' (hlevel.trans hoptions), Node.resolve, h'.treatment_eq]
        exact hwithin.read h h' hlead hlead' hid hid' hvalue
      · rw [Node.getValue_of_level_ne hkey hoptions] at hvalue
        rw [Node.getValue_of_level_ne hkey' (by rw [hlevel]; exact hoptions), hvalue]
    | _ => simp [Value.isString] at hstring

end Tree

/-! ## Typed reads -/

/-- The second result is the first one, if that is no failure. -/
def Error.Keeps {α : Type} (result result' : Except Error α) : Prop :=
  ∀ a, result = .ok a → result' = .ok a

namespace Node

/-- A conversion of values that succeeds does not depend on the place of the value. -/
def PlaceFree {α : Type} (convert : Node → String → Value → Except Error α) : Prop :=
  ∀ node node' key value a, convert node key value = .ok a → convert node' key value = .ok a

/-- A value that stands for an integer stands for it at every node. -/
lemma placeFree_toInt : PlaceFree toInt := by
  intro node node' key value n h
  cases value with
  | integer m => exact h
  | string text =>
    simp only [toInt] at h ⊢
    split at h
    · exact h
    · simp at h
  | _ => simp [toInt] at h

/-- A value that stands for a number stands for it at every node. -/
lemma placeFree_toFloat : PlaceFree toFloat := by
  intro node node' key value x h
  cases value with
  | integer n => exact h
  | float y => exact h
  | string text =>
    simp only [toFloat] at h ⊢
    split at h
    · exact h
    · simp at h
  | _ => simp [toFloat] at h

/-- A value that stands for a truth value stands for it at every node. -/
lemma placeFree_toBool : PlaceFree toBool := by
  intro node node' key value b h
  simp only [toBool] at h ⊢
  split at h
  · exact h
  · simp at h

/-- A value is displayed as the same text at every node. -/
lemma placeFree_toText : PlaceFree toText := by
  intro node node' key value text h
  cases value with
  | mapping entries => simp [toText] at h
  | _ => exact h

end Node

/-! ## Configurations -/

namespace Config

/-- Every read of a value along the path that succeeds in the first configuration gives the same in the
second one. -/
structure Preserves (config config' : Config) (path : String) : Prop where
  /-- Reads of any value. -/
  lookupValue : Error.Keeps (config.lookupValue path) (config'.lookupValue path)
  /-- Reads of an integer. -/
  getInt : Error.Keeps (config.getInt path) (config'.getInt path)
  /-- Reads of a number. -/
  getFloat : Error.Keeps (config.getFloat path) (config'.getFloat path)
  /-- Reads of a truth value. -/
  getBool : Error.Keeps (config.getBool path) (config'.getBool path)
  /-- Reads of a text. -/
  getString : Error.Keeps (config.getString path) (config'.getString path)

variable {config config' : Config} {options : Options} {depth : ℕ} {mapping more : Mapping}
  {label label' : String}

/-- **Reads in a configuration with more values** give the same, if they succeed.

**Proof sketch.** The first segments of the path lead to a node in both trees, and the last one reads
the same there (`Tree.Within.getValue`). -/
lemma preserves_of_within (h : config.tree.Represents options.treatment depth mapping)
    (h' : config'.tree.Represents options.treatment depth more) (hwithin : mapping.Within more)
    (path : String) : config.Preserves config' path := by
  have htrees := h.within h' hwithin
  have htyped {α : Type} {convert : Node → String → Value → Except Error α}
      {read : Node × String → Except Error α} (hconvert : Node.PlaceFree convert)
      (hread : ∀ node key, read (node, key) = node.getValue key >>= convert node key) :
      Error.Keeps (config.parentOf path >>= read) (config'.parentOf path >>= read) := by
    intro a ha
    obtain ⟨target, hlead, ha⟩ := bind_parentOf_eq_ok_iff.mp ha
    rw [hread] at ha
    obtain ⟨value, hvalue, hresult⟩ := bind_eq_ok_iff.mp ha
    obtain ⟨target', hlead', hvalue'⟩ := htrees.getValue h h' hlead hvalue
    refine bind_parentOf_eq_ok_iff.mpr ⟨target', hlead', ?_⟩
    rw [hread]
    exact bind_eq_ok_iff.mpr ⟨value, hvalue', hconvert _ _ _ _ _ hresult⟩
  refine ⟨fun value hvalue => ?_, htyped Node.placeFree_toInt fun _ _ => rfl,
    htyped Node.placeFree_toFloat fun _ _ => rfl, htyped Node.placeFree_toBool fun _ _ => rfl,
    htyped Node.placeFree_toText fun _ _ => rfl⟩
  obtain ⟨target, hlead, hread⟩ := lookupValue_eq_ok_iff.mp hvalue
  exact lookupValue_eq_ok_iff.mpr (htrees.getValue h h' hlead hread)

/-- A mapping becomes a configuration in every order of its entries. -/
lemma exists_build_of_rearranged (h : mapping.Rearranged more)
    (hbuild : Config.build options mapping label depth = .ok config) (label' : String) :
    ∃ config', Config.build options more label' depth = .ok config' := by
  obtain ⟨tree, htree, rfl⟩ := map_eq_ok_iff.mp hbuild
  have hfaults := (Tree.decides_build label options.treatment mapping depth).exists_ok_iff.mp
    ⟨tree, htree⟩
  have hfaults' : Mapping.faultsAt options.treatment.store label' depth more = [] := by
    rw [Mapping.faultsAt_eq_nil_iff] at hfaults ⊢
    intro path target' hreach'
    obtain ⟨target, hreach, htarget⟩ := h.symm.exists_reaches hreach'
    obtain ⟨hdepth, hkeys⟩ := hfaults path target hreach
    exact ⟨hdepth, (htarget.keys_perm.map normalizeKey).nodup_iff.mpr hkeys⟩
  obtain ⟨tree', htree'⟩ :=
    (Tree.decides_build label' options.treatment more depth).exists_ok_iff.mpr hfaults'
  exact ⟨_, map_eq_ok_iff.mpr ⟨tree', htree', rfl⟩⟩

/-- **Reads are stable.** Let a mapping become a configuration. In every configuration of a mapping that
has all of its values, at the end of the same paths and under the same keys up to their spelling, and
maybe more, each read along a path that succeeds in the first configuration gives the same result. If
the entries are only put in another order, there is such a configuration, and the reads that succeed are
the same in both.

**Proof sketch.** The values are stored where the same keys lead (`Tree.Represents.within`), at nodes that
may have other numbers, and substitutions find at least what they found before
(`Reference.substitute_mono`). -/
theorem build_reads_stable (hbuild : Config.build options mapping label depth = .ok config) :
    (∀ more label' config', Config.build options more label' depth = .ok config' →
      mapping.Within more → ∀ path, config.Preserves config' path) ∧
    ∀ more label', mapping.Rearranged more →
      ∃ config', Config.build options more label' depth = .ok config' ∧
        ∀ path, config.Preserves config' path ∧ config'.Preserves config path := by
  have h := represents_of_build hbuild
  refine ⟨fun more label' config' hbuild' hwithin => ?_, fun more label' hrearranged => ?_⟩
  · exact preserves_of_within h (represents_of_build hbuild') hwithin
  · obtain ⟨config', hbuild'⟩ := exists_build_of_rearranged hrearranged hbuild label'
    have h' := represents_of_build hbuild'
    exact ⟨config', hbuild', fun path => ⟨preserves_of_within h h' hrearranged.within path,
      preserves_of_within h' h hrearranged.symm.within path⟩⟩

end Config

/-- A mapping with a reference from one option to another one. -/
def smallMapping : Mapping :=
  [("a", .mapping [("main", .mapping [("n", .null), ("m", .string "$\x7ba.main.n\x7d")])])]

/-- The same in another order and spelling, with one more section and one more option. -/
def largeMapping : Mapping :=
  [("b", .mapping []), ("A", .mapping [("main", .mapping [("m", .string "$\x7ba.main.n\x7d"),
    ("k", .bool true), ("N", .null)])])]

/-- The configuration of the first mapping, without inference. -/
def smallConfig : Config :=
  ⟨⟨#[⟨.options, [("n", .value .null), ("m", .value (.string "$\x7ba.main.n\x7d"))], some (some 1)⟩,
      ⟨.subsections, [("main", .node 0)], some (some 2)⟩,
      ⟨.sections, [("a", .node 1)], some none⟩], 2, Options.treatment ⟨false, true⟩⟩, ⟨false, true⟩⟩

/-- The options of the small mapping are found in the large one. -/
lemma within_largeMapping : smallMapping.Within largeMapping := by
  have hreach : Reaches largeMapping ["A", "main"]
      [("m", .string "$\x7ba.main.n\x7d"), ("k", .bool true), ("N", .null)] :=
    .step (.tail _ (.head _)) (.step (.head _) (.here _))
  have hmain : ["A", "main"].map normalizeKey = ["a", "main"].map normalizeKey := by decide
  have hkey : normalizeKey "N" = normalizeKey "n" := by decide
  rintro path key value ⟨inner, hsmall, hmem, hvalue⟩
  cases hsmall with
  | here =>
    obtain ⟨-, rfl⟩ := Prod.mk.inj (List.mem_singleton.mp hmem)
    simp [Value.asMapping?] at hvalue
  | step hsection hsmall =>
    obtain ⟨rfl, hentries⟩ := Prod.mk.inj (List.mem_singleton.mp hsection)
    obtain rfl := Value.mapping.inj hentries
    cases hsmall with
    | here =>
      obtain ⟨-, rfl⟩ := Prod.mk.inj (List.mem_singleton.mp hmem)
      simp [Value.asMapping?] at hvalue
    | step hsubsection hsmall =>
      obtain ⟨rfl, hentries⟩ := Prod.mk.inj (List.mem_singleton.mp hsubsection)
      obtain rfl := Value.mapping.inj hentries
      cases hsmall with
      | here =>
        have hoption : key = "n" ∧ value = .null ∨
            key = "m" ∧ value = .string "$\x7ba.main.n\x7d" := by simpa using hmem
        rcases hoption with ⟨rfl, rfl⟩ | ⟨rfl, rfl⟩
        · exact ⟨["A", "main"], "N", ⟨_, hreach, by simp, rfl⟩, hmain, hkey⟩
        · exact ⟨["A", "main"], "m", ⟨_, hreach, by simp, rfl⟩, hmain, rfl⟩
      | step hoption => simp at hoption

/-- The reference reads the same in both configurations. -/
theorem build_reads_stable_small :
    Config.build ⟨false, true⟩ smallMapping rootLabel 0 = .ok smallConfig ∧
      ∃ config, Config.build ⟨false, true⟩ largeMapping rootLabel 0 = .ok config ∧
        smallConfig.lookupValue "a.main.m" = .ok (.string "None") ∧
        config.lookupValue "a.main.m" = .ok (.string "None") := by
  have hbuild : Config.build ⟨false, true⟩ smallMapping rootLabel 0 = .ok smallConfig := rfl
  have hlead : smallConfig.tree.nodes.Leads smallConfig.tree.root ["a", "main"] 0 :=
    .step rfl (.step rfl (.here 0))
  have hname : ∀ c ∈ "a.main.n".toList, Reference.isNameChar c :=
    List.all_eq_true.mp (by decide)
  have hvalue : smallConfig.tree.nodes.stored? smallConfig.tree.root ⟨"a", "main", "n"⟩ =
      some .null := rfl
  have hsubstitute : Reference.substitute (smallConfig.tree.nodes.stored? smallConfig.tree.root)
      ⟨normalizeKey "a", normalizeKey "main", "m"⟩ "$\x7ba.main.n\x7d" = .ok "None" :=
    Reference.substitute_reference hname rfl hvalue rfl
  have hread : (Node.mk smallConfig.tree 0).getValue "m" = .ok (.string "None") := by
    rw [(Config.represents_of_build hbuild).getValue_of_substitutes hlead rfl (by decide),
      hsubstitute]
    rfl
  have hsmall : smallConfig.lookupValue "a.main.m" = .ok (.string "None") :=
    Config.lookupValue_eq_ok_iff.mpr ⟨0, hlead, hread⟩
  refine ⟨hbuild, _, rfl, hsmall, ?_⟩
  exact ((Config.build_reads_stable hbuild).1 largeMapping rootLabel _ rfl within_largeMapping
    "a.main.m").lookupValue _ hsmall

end ConfigTree
