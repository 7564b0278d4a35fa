import ConfigTree.Proofs.Config.Path
import ConfigTree.Proofs.Config.Plain

set_option relaxedAutoImplicit false
set_option autoImplicit false

/-!
# Building what was exported

The export of a tree with its values as they are stored is the mapping that the tree was built from,
with normalized keys and stored values. Building a tree from it again, without inference, adds the
same nodes in the same order: normalized keys stay as they are and do not clash, and values are
stored as they come.

## Main definitions

* `ConfigTree.Mapping.normalizedWith` — a mapping with all of its keys normalized, and its values
  changed by a function.

## Main results

* `ConfigTree.Tree.Represents.exportFrom_root` — the export of a tree that stores a mapping.
* `ConfigTree.Tree.placeAll_normalizedWith` — the run over the entries of such an export.
* `ConfigTree.Config.build_toValue` — building a configuration from its own export.
-/

namespace ConfigTree

open Arena (Stores)

/-! ## Normalized mappings -/

namespace Mapping

variable {f : Value → Value}

/-- The mapping with its keys and those of the mappings below it normalized, and with `f` applied to
its other values. A sequence is such a value, with all that is inside. -/
def normalizedWith (f : Value → Value) : Mapping → Mapping
  | [] => []
  | (key, .mapping inner) :: rest =>
    (normalizeKey key, .mapping (normalizedWith f inner)) :: normalizedWith f rest
  | (key, value) :: rest => (normalizeKey key, f value) :: normalizedWith f rest
termination_by mapping => sizeOf mapping

/-- The empty mapping stays empty. -/
@[simp] lemma normalizedWith_nil : normalizedWith f [] = [] := by
  rw [normalizedWith]

/-- A value gets the other form, under the normalized key. -/
lemma normalizedWith_leaf {key : String} {value : Value} {rest : Mapping}
    (hvalue : value.asMapping? = none) :
    normalizedWith f ((key, value) :: rest) =
      (normalizeKey key, f value) :: normalizedWith f rest := by
  rw [normalizedWith]
  rintro inner rfl
  simp [Value.asMapping?] at hvalue

/-- A mapping inside is normalized itself, under the normalized key. -/
lemma normalizedWith_node {key : String} {inner rest : Mapping} :
    normalizedWith f ((key, .mapping inner) :: rest) =
      (normalizeKey key, .mapping (inner.normalizedWith f)) :: normalizedWith f rest := by
  rw [normalizedWith]

end Mapping

/-! ## The export of a stretch -/

namespace Tree

variable {tree : Tree} {store : Value → Value}

/-- **The entries of a node** are exported as the mapping that they store.

**Proof sketch.** Induction on the stretch. A child is exported like the node, by the stretch that
comes before it. -/
lemma mapM_exportSlot {cell : Option (Option ℕ)} {depth lo hi : ℕ} {mapping : Mapping}
    {slots : Table Slot} (hdescends : tree.nodes.Descends)
    (h : Stores store tree.nodes cell depth lo mapping slots hi) (id : ℕ) :
    (slots.mapM fun entry => (tree.exportSlot false id entry.1 entry.2).map (entry.1, ·)) =
      .ok (mapping.normalizedWith store) := by
  induction h generalizing id with
  | nil => rw [Mapping.normalizedWith_nil]; rfl
  | leaf hvalue _ ih =>
    rw [List.mapM_cons, ih id, Mapping.normalizedWith_leaf hvalue]
    rfl
  | @node _ _ _ child _ _ inner _ _ _ _ _ _ hdata _ ihInner ih =>
    have hchild : tree.exportFrom false child = .ok (.mapping (inner.normalizedWith store)) := by
      rw [exportFrom_eq hdescends, Arena.data_of_getElem? hdata, ihInner child]
      rfl
    rw [List.mapM_cons, ih id, Mapping.normalizedWith_node, exportSlot, hchild]
    rfl

/-- **The export of a tree** that stores a mapping, with values as they are stored. -/
lemma Represents.exportFrom_root {treatment : Treatment} {depth : ℕ} {mapping : Mapping}
    (h : tree.Represents treatment depth mapping) :
    tree.exportFrom false tree.root = .ok (.mapping (mapping.normalizedWith treatment.store)) := by
  rw [exportFrom_eq h.descends, mapM_exportSlot h.descends h.holds.stores]
  rfl

end Tree

/-! ## The run over an export -/

/-- A key can be claimed exactly if it is not there; how the node is called in errors plays no part
in this. -/
lemma Arena.claim_eq_ok_iff {arena : Arena} {level : Level} {path : List String}
    {entries : Table Slot} {key : String} :
    arena.claim level path entries key = .ok () ↔ entries.get? (normalizeKey key) = none := by
  rw [claim]
  cases entries.get? (normalizeKey key) <;> simp

namespace Tree

variable {store store' : Value → Value} {label : String}

/-- A node is opened exactly if its level exists, its contents are made and it can be closed. -/
lemma openNode_eq_ok_iff {header : String} {depth : ℕ}
    {contents : Unit → Except Error (Arena × Table Slot)} {result : Arena × ℕ} :
    openNode header depth contents = .ok result ↔
      depth < maxLevel ∧ ∃ contained, contents () = .ok contained ∧
        contained.1.close (Level.ofDepth depth) contained.2 = .ok result := by
  unfold openNode
  split
  · rename_i hdepth
    rw [bind_eq_ok_iff]
    simp [hdepth]
  · rename_i hdepth
    simp [hdepth]

/-- One step of the run over the entries of a mapping. -/
lemma placeAll_cons_eq_ok_iff {path : List String} {depth : ℕ} {arena : Arena} {slots : Table Slot}
    {key : String} {value : Value} {rest : Mapping} {result : Arena × Table Slot} :
    placeAll store label path depth arena slots ((key, value) :: rest) = .ok result ↔
      ∃ placed, place store label (path ++ [key]) (depth + 1) arena value = .ok placed ∧
        slots.get? (normalizeKey key) = none ∧
        placeAll store label path depth placed.1 (slots ++ [(normalizeKey key, placed.2)]) rest =
          .ok result := by
  rw [placeAll, bind_eq_ok_iff]
  refine exists_congr fun placed => and_congr_right fun _ => ?_
  rw [bind_eq_ok_iff, ← Arena.claim_eq_ok_iff]
  constructor
  · rintro ⟨_, hclaim, hrest⟩
    exact ⟨hclaim, hrest⟩
  · rintro ⟨hclaim, hrest⟩
    exact ⟨(), hclaim, hrest⟩

/-- **The run over the entries of an export** makes the same nodes and slots as the run over the
mapping that it exports, if values that were stored are stored unchanged, and not as mappings.

**Proof sketch.** Induction on the entries of the mapping and on those of the mappings inside. -/
lemma placeAll_normalizedWith (label' : String)
    (hleaf : ∀ value : Value, value.asMapping? = none → (store value).asMapping? = none)
    (hstore : ∀ value : Value, store' (store value) = store value) (mapping : Mapping) :
    ∀ (path path' : List String) (depth : ℕ) (arena : Arena) (slots : Table Slot)
      (result : Arena × Table Slot),
      placeAll store label path depth arena slots mapping = .ok result →
        placeAll store' label' path' depth arena slots (mapping.normalizedWith store) =
          .ok result := by
  induction mapping using Mapping.induction with
  | nil =>
    intro path path' depth arena slots result h
    rw [placeAll] at h
    rw [Mapping.normalizedWith_nil, placeAll, h]
  | leaf key value rest hvalue ih =>
    intro path path' depth arena slots result h
    obtain ⟨placed, hplace, hkey, hrest⟩ := placeAll_cons_eq_ok_iff.mp h
    rw [place_leaf label _ _ _ hvalue, ← hstore value] at hplace
    rw [Mapping.normalizedWith_leaf hvalue, placeAll_cons_eq_ok_iff, normalizeKey_normalizeKey]
    refine ⟨placed, ?_, hkey, ih _ _ _ _ _ _ hrest⟩
    rw [place_leaf label' _ _ _ (hleaf value hvalue), hplace]
  | node key inner rest ihInner ih =>
    intro path path' depth arena slots result h
    obtain ⟨placed, hplace, hkey, hrest⟩ := placeAll_cons_eq_ok_iff.mp h
    rw [place_node] at hplace
    obtain ⟨opened, hopen, heq⟩ := map_eq_ok_iff.mp hplace
    obtain ⟨hdepth, contained, hcontents, hclose⟩ := openNode_eq_ok_iff.mp hopen
    rw [Mapping.normalizedWith_node, placeAll_cons_eq_ok_iff, normalizeKey_normalizeKey]
    refine ⟨placed, ?_, hkey, ih _ _ _ _ _ _ hrest⟩
    rw [place_node, map_eq_ok_iff]
    refine ⟨opened, ?_, heq⟩
    exact openNode_eq_ok_iff.mpr ⟨hdepth, contained, ihInner _ _ _ _ _ _ hcontents, hclose⟩

/-- **A tree from an export** has the nodes of the tree that was exported. -/
lemma build_normalizedWith {treatment treatment' : Treatment} {mapping : Mapping} {depth : ℕ}
    {tree : Tree} (label' : String)
    (hleaf : ∀ value : Value, value.asMapping? = none →
      (treatment.store value).asMapping? = none)
    (hstore : ∀ value : Value, treatment'.store (treatment.store value) = treatment.store value)
    (hbuild : build treatment mapping label depth = .ok tree) :
    build treatment' (mapping.normalizedWith treatment.store) label' depth =
      .ok { tree with treatment := treatment' } := by
  obtain ⟨⟨arena, root⟩, hopen, hbuild⟩ := bind_eq_ok_iff.mp hbuild
  obtain ⟨nodes, hassign, hbuild⟩ := bind_eq_ok_iff.mp hbuild
  obtain rfl := Except.ok.inj hbuild
  obtain ⟨hdepth, contained, hcontents, hclose⟩ := openNode_eq_ok_iff.mp hopen
  have hcontents' := placeAll_normalizedWith label' hleaf hstore mapping [] [] depth #[] []
    contained hcontents
  exact bind_eq_ok_iff.mpr ⟨(arena, root),
    openNode_eq_ok_iff.mpr ⟨hdepth, contained, hcontents', hclose⟩,
    bind_eq_ok_iff.mpr ⟨nodes, hassign, rfl⟩⟩

end Tree

/-! ## Configurations -/

/-- Without inference, values are stored as they come. -/
lemma Options.store_of_not_infer {options : Options} (hinfer : options.autoInfer = false)
    (value : Value) : options.store value = value := by
  cases value with
  | string text => simp [store, denote, hinfer]
  | _ => rfl

namespace Config

/-- **Building undoes exporting.** A configuration that was built under any options is exported, with
its values as they are stored, as a mapping. Without inference, this mapping becomes a configuration
at the same depth again, under whatever label; its nodes are the same, in all that they hold, and so
is its export. If the configuration itself was built without inference, its export is the mapping
that it was built from, with all keys normalized and nothing else changed.

**Proof sketch.** The export is the mapping with normalized keys and stored values
(`Tree.Represents.exportFrom_root`), and the run over it goes as the run over the mapping did
(`Tree.build_normalizedWith`). -/
theorem build_toValue {options : Options} {mapping : Mapping} {label : String} {depth : ℕ}
    {config : Config} (h : Config.build options mapping label depth = .ok config) :
    (∃ exported : Mapping, config.toValue false = .ok (.mapping exported) ∧
      ∀ interpolate label', ∃ rebuilt,
        Config.build ⟨false, interpolate⟩ exported label' depth = .ok rebuilt ∧
        rebuilt.tree.nodes = config.tree.nodes ∧ rebuilt.tree.root = config.tree.root ∧
        rebuilt.toValue false = .ok (.mapping exported)) ∧
    (options.autoInfer = false →
      config.toValue false = .ok (.mapping (mapping.normalizedWith id))) := by
  have hrepresents := represents_of_build h
  have hexport : config.toValue false =
      .ok (.mapping (mapping.normalizedWith options.treatment.store)) := hrepresents.exportFrom_root
  refine ⟨⟨_, hexport, fun interpolate label' => ?_⟩, fun hinfer => ?_⟩
  · obtain ⟨tree, hbuild, rfl⟩ := map_eq_ok_iff.mp h
    have hstore : ∀ value : Value, (Options.treatment ⟨false, interpolate⟩).store
        (options.treatment.store value) = options.treatment.store value :=
      fun _ => Options.store_of_not_infer rfl _
    have hrebuild := Tree.build_normalizedWith label' options.regular_treatment.store_leaf hstore
      hbuild
    have hsame : Config.toValue ⟨tree, options⟩ false = Config.toValue ⟨{ tree with
        treatment := Options.treatment ⟨false, interpolate⟩ }, ⟨false, interpolate⟩⟩ false :=
      toValue_false_congr hrepresents.descends rfl rfl
    exact ⟨_, map_eq_ok_iff.mpr ⟨_, hrebuild, rfl⟩, rfl, rfl, hsame.symm.trans hexport⟩
  · have hstore : options.treatment.store = id :=
      funext fun value => Options.store_of_not_infer hinfer value
    rw [hexport, hstore]

/-- A mapping in which one option holds a mapping inside a sequence. -/
def sequenceMapping : Mapping :=
  [("A", .mapping [("B", .mapping [("X", .sequence [.mapping [("K", .null)]])])])]

/-- The configuration of that mapping, without inference. -/
def sequenceConfig : Config :=
  ⟨⟨#[⟨.options, [("x", .value (.sequence [.mapping [("K", .null)]]))], some (some 1)⟩,
      ⟨.subsections, [("b", .node 0)], some (some 2)⟩,
      ⟨.sections, [("a", .node 1)], some none⟩], 2, Options.treatment ⟨false, true⟩⟩, ⟨false, true⟩⟩

/-- The keys of the nodes are normalized, the key inside the sequence is not, and the export becomes
the same nodes again. -/
theorem build_toValue_sequence :
    Config.build ⟨false, true⟩ sequenceMapping rootLabel 0 = .ok sequenceConfig ∧
      ∃ exported : Mapping, sequenceConfig.toValue false = .ok (.mapping exported) ∧
        exported = [("a", .mapping [("b", .mapping [("x", .sequence [.mapping [("K", .null)]])])])] ∧
        ∃ rebuilt, Config.build ⟨false, false⟩ exported rootLabel 0 = .ok rebuilt ∧
          rebuilt.tree.nodes = sequenceConfig.tree.nodes := by
  have hbuild : Config.build ⟨false, true⟩ sequenceMapping rootLabel 0 = .ok sequenceConfig := rfl
  obtain ⟨⟨exported, hexport, hrebuild⟩, hplain⟩ := build_toValue hbuild
  have hnormal : exported = sequenceMapping.normalizedWith id :=
    Value.mapping.inj (Except.ok.inj (hexport.symm.trans (hplain rfl)))
  obtain ⟨rebuilt, hrebuilt, hnodes, -⟩ := hrebuild false rootLabel
  refine ⟨hbuild, exported, hexport, ?_, rebuilt, hrebuilt, hnodes⟩
  rw [hnormal, sequenceMapping, Mapping.normalizedWith_node, Mapping.normalizedWith_node,
    Mapping.normalizedWith_leaf rfl]
  simp only [Mapping.normalizedWith_nil]
  rfl

end Config

end ConfigTree
