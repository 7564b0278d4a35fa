import ConfigTree.Proofs.Tree.Export
import ConfigTree.Proofs.Value.Literal

set_option relaxedAutoImplicit false
set_option autoImplicit false

/-!
# Texts without dollar signs

A text without dollar signs is inferred when it is stored, if this is asked for, and never again when
it is read, since inference introduces no dollar signs. Other values are stored and read as they are.
In a configuration without dollar signs it thus makes no difference whether references are
substituted.

## Main definitions

* `ConfigTree.Mapping.LeafAt` — a value of a nested mapping that is no mapping itself.

## Main results

* `ConfigTree.Tree.build_congr` — trees whose values are stored in the same way have the same nodes.
* `ConfigTree.Node.getValue_of_plain` — a stored value without dollar signs is read as it is stored.
* `ConfigTree.Config.getValue_plain` — what the values of a mapping read as, and the configurations
  without dollar signs.
-/

namespace ConfigTree

namespace Mapping

/-- The mapping holds a value, which is no mapping, under a key where a path leads. -/
def LeafAt (mapping : Mapping) (path : List String) (key : String) (value : Value) : Prop :=
  ∃ inner, Reaches mapping path inner ∧ (key, value) ∈ inner ∧ value.asMapping? = none

variable {mapping inner rest : Mapping} {path : List String} {k key : String} {value value' : Value}

/-- An entry of a mapping that is no mapping itself is a leaf at the empty path. -/
lemma leafAt_here (hmem : (key, value) ∈ mapping) (hvalue : value.asMapping? = none) :
    mapping.LeafAt [] key value :=
  ⟨mapping, .here mapping, hmem, hvalue⟩

/-- A leaf of the first entry is a leaf of the mapping, below the key of that entry. -/
lemma LeafAt.of_inner (h : inner.LeafAt path key value) :
    LeafAt ((k, .mapping inner) :: rest) (k :: path) key value := by
  obtain ⟨target, hreach, hmem, hvalue⟩ := h
  exact ⟨target, .step List.mem_cons_self hreach, hmem, hvalue⟩

/-- A leaf of the further entries is a leaf of the mapping. -/
lemma LeafAt.of_rest (h : rest.LeafAt path key value) :
    LeafAt ((k, value') :: rest) path key value := by
  obtain ⟨target, hreach, hmem, hvalue⟩ := h
  cases hreach with
  | here => exact ⟨_, .here _, List.mem_cons_of_mem _ hmem, hvalue⟩
  | step hin hreach => exact ⟨_, .step (List.mem_cons_of_mem _ hin) hreach, hmem, hvalue⟩

end Mapping

/-! ## The same nodes -/

namespace Tree

variable {mapping : Mapping} {label : String} {depth : ℕ}

/-- Two ways of storing values that agree on all values of a mapping put the same into its slots. -/
lemma placeAll_congr {store store' : Value → Value} (mapping : Mapping)
    (hstore : ∀ path key value, mapping.LeafAt path key value → store value = store' value) :
    ∀ (path : List String) (depth : ℕ) (arena : Arena) (entries : Table Slot),
      placeAll store label path depth arena entries mapping =
        placeAll store' label path depth arena entries mapping := by
  induction mapping using Mapping.induction with
  | nil =>
    intro path depth arena entries
    rw [placeAll, placeAll]
  | leaf key value rest hvalue ih =>
    intro path depth arena entries
    have hhead := hstore [] key value (Mapping.leafAt_here List.mem_cons_self hvalue)
    have hrest := ih fun path key value hleaf => hstore path key value hleaf.of_rest
    rw [placeAll, placeAll, place_leaf label _ _ _ hvalue, place_leaf label _ _ _ hvalue, hhead]
    simp only [hrest]
  | node key inner rest ihInner ih =>
    intro path depth arena entries
    have hinner := ihInner fun path k value hleaf => hstore (key :: path) k value hleaf.of_inner
    have hrest := ih fun path key value hleaf => hstore path key value hleaf.of_rest
    rw [placeAll, placeAll, place_node, place_node]
    simp only [hinner, hrest]

/-- **Trees whose values are stored in the same way** have the same nodes. -/
lemma build_congr {treatment treatment' : Treatment} {tree : Tree}
    (hstore : ∀ path key value, mapping.LeafAt path key value →
      treatment.store value = treatment'.store value)
    (hbuild : build treatment mapping label depth = .ok tree) :
    build treatment' mapping label depth = .ok { tree with treatment := treatment' } := by
  have hplace : placeAll treatment.store label [] depth #[] [] mapping =
      placeAll treatment'.store label [] depth #[] [] mapping :=
    placeAll_congr mapping hstore [] depth #[] []
  rw [build, hplace] at hbuild
  obtain ⟨⟨arena, root⟩, hopen, hbuild⟩ := bind_eq_ok_iff.mp hbuild
  obtain ⟨nodes, hassign, hbuild⟩ := bind_eq_ok_iff.mp hbuild
  obtain rfl := Except.ok.inj hbuild
  exact bind_eq_ok_iff.mpr ⟨(arena, root), hopen, bind_eq_ok_iff.mpr ⟨nodes, hassign, rfl⟩⟩

end Tree

/-! ## Stored values without references -/

namespace Options

variable {options : Options}

/-- A value that is no text is stored as it is. -/
lemma store_of_not_string {value : Value} (hvalue : value.isString = false) :
    options.store value = value := by
  cases value with
  | string text => simp [Value.isString] at hvalue
  | _ => rfl

/-- A text without dollar signs is stored as the value that it denotes. -/
lemma store_of_plain {text : String} (htext : hasDollar text = false) :
    options.store (.string text) = options.denote text := by
  simp [store, htext]

/-- A text without dollar signs denotes no text with a dollar sign. -/
lemma hasDollar_of_denote {text found : String} (htext : hasDollar text = false)
    (h : options.denote text = .string found) : hasDollar found = false := by
  unfold denote at h
  split at h
  · exact Value.hasDollar_of_infer htext h
  · rw [← Value.string.inj h]
    exact htext

/-- A value without dollar signs is stored as one. -/
lemma hasDollar_of_store {value : Value}
    (hvalue : ∀ text, value = .string text → hasDollar text = false) {found : String}
    (h : options.store value = .string found) : hasDollar found = false := by
  cases value with
  | string text =>
    rw [store_of_plain (hvalue text rfl)] at h
    exact hasDollar_of_denote (hvalue text rfl) h
  | _ => simp [store] at h

end Options

/-- A text with a dollar sign is stored as it is. -/
lemma store_reference {text : String} (htext : hasDollar text = true) :
    ({} : Options).store (.string text) = .string text := by
  simp [Options.store, htext]

/-- **A stored value without dollar signs** is read as it is stored. -/
lemma Node.getValue_of_plain {node : Node} {options : Options} {key : String} {value : Value}
    (htreatment : node.tree.treatment = options.treatment)
    (h : node.getRaw? key = some (.value value))
    (hvalue : ∀ text, value = .string text → hasDollar text = false) :
    node.getValue key = .ok value := by
  cases hstring : value.isString with
  | false => exact getValue_of_not_string h hstring
  | true =>
    cases value with
    | string text => exact getValue_of_no_references htreatment h (hvalue text rfl)
    | _ => simp [Value.isString] at hstring

/-! ## Configurations -/

namespace Config

variable {mapping : Mapping} {label : String} {depth : ℕ} {options : Options} {config : Config}

/-- A configuration that was built represents its mapping. -/
lemma represents_of_build (h : Config.build options mapping label depth = .ok config) :
    config.tree.Represents options.treatment depth mapping := by
  obtain ⟨tree, hbuild, rfl⟩ := map_eq_ok_iff.mp h
  exact Tree.represents_of_build hbuild

/-- Whether a mapping becomes a configuration does not depend on the options. -/
lemma exists_build {given : Options} (h : Config.build given mapping label depth = .ok config)
    (options : Options) : ∃ config, Config.build options mapping label depth = .ok config := by
  obtain ⟨tree, hbuild, rfl⟩ := map_eq_ok_iff.mp h
  have hfaults := ((Tree.decides_build label given.treatment mapping depth).exists_ok_iff.mp
    ⟨tree, hbuild⟩)
  rw [Mapping.faultsAt_eq_nil_iff,
    ← Mapping.faultsAt_eq_nil_iff options.treatment.store label] at hfaults
  obtain ⟨tree', hbuild'⟩ :=
    (Tree.decides_build label options.treatment mapping depth).exists_ok_iff.mpr hfaults
  exact ⟨_, map_eq_ok_iff.mpr ⟨tree', hbuild', rfl⟩⟩

/-- A configuration without dollar signs is exported as it is stored, if its values are read. -/
lemma toValue_of_plain (h : config.tree.Represents options.treatment depth mapping)
    (hplain : ∀ path key text, mapping.LeafAt path key (.string text) → hasDollar text = false) :
    config.toValue true = config.toValue false := by
  refine Tree.exportFrom_congr h.descends rfl (fun id key raw hmem => ?_) config.tree.root
  have hlist : (key, .value raw) ∈ (Node.mk config.tree id).toList :=
    Tree.mem_toList_value_iff.mpr hmem
  have hkey := h.getRaw?_of_mem_toList (Tree.lt_nodeCount_of_mem_toList hlist) hlist
  obtain ⟨path, inner, k, leaf, hreach, -, hleaf, -, hnone, rfl⟩ :=
    h.exists_leaf (Node.getRaw?_eq_value_iff.mp hkey)
  refine Node.getValue_of_plain h.treatment_eq hkey fun text htext => ?_
  refine Options.hasDollar_of_store (fun text hstring => ?_) htext
  exact hplain path k text ⟨inner, hreach, hstring ▸ hleaf, rfl⟩

/-- What is stored alone decides on the export of a configuration as it is stored. -/
lemma toValue_false_congr {config' : Config} (h : config.tree.nodes.Descends)
    (hnodes : config'.tree.nodes = config.tree.nodes)
    (hroot : config'.tree.root = config.tree.root) :
    config.toValue false = config'.toValue false := by
  show config.tree.exportFrom false config.tree.root = config'.tree.exportFrom false config'.tree.root
  rw [hroot]
  exact Tree.exportFrom_congr h hnodes (fun _ _ _ _ => rfl) config.tree.root

/-- Without dollar signs, a mapping becomes a tree with the same nodes if references are not
substituted. -/
lemma build_of_plain {autoInfer : Bool}
    (hplain : ∀ path key text, mapping.LeafAt path key (.string text) → hasDollar text = false)
    (h : Config.build ⟨autoInfer, true⟩ mapping label depth = .ok config) :
    Config.build ⟨autoInfer, false⟩ mapping label depth =
      .ok ⟨{ config.tree with treatment := Options.treatment ⟨autoInfer, false⟩ },
        ⟨autoInfer, false⟩⟩ := by
  obtain ⟨tree, hbuild, rfl⟩ := map_eq_ok_iff.mp h
  refine map_eq_ok_iff.mpr ⟨_, Tree.build_congr (fun path key value hleaf => ?_) hbuild, rfl⟩
  show Options.store _ value = Options.store _ value
  cases value with
  | string text =>
    have htext := hplain path key text hleaf
    rw [Options.store_of_plain htext, Options.store_of_plain htext]
    rfl
  | _ => rfl

/-- **Values without dollar signs.** A mapping that becomes a configuration does so under all options.
A text without dollar signs then reads as the value that it denotes, or as itself if texts are not
inferred, and every value that is no text reads as it is. If no text of the mapping has a dollar sign,
the configurations with and without the substitution of references have the same nodes and the same
exports, whether values are read or not.

**Proof sketch.** Inference introduces no dollar signs (`Value.hasDollar_of_infer`), so what is stored
for such a text is read as it is stored. -/
theorem getValue_plain {given : Options}
    (h : Config.build given mapping label depth = .ok config) :
    (∀ options, ∃ config, Config.build options mapping label depth = .ok config ∧
      ∀ path key value, mapping.LeafAt path key value →
        ∃ node, config.root.walk path = .ok node ∧
          (∀ text, value = .string text → hasDollar text = false →
            node.getValue key = .ok (if options.autoInfer then Value.infer text else .string text)) ∧
          (value.isString = false → node.getValue key = .ok value)) ∧
    ((∀ path key text, mapping.LeafAt path key (.string text) → hasDollar text = false) →
      ∀ autoInfer, ∃ on off exported, Config.build ⟨autoInfer, true⟩ mapping label depth = .ok on ∧
        Config.build ⟨autoInfer, false⟩ mapping label depth = .ok off ∧
        on.tree.nodes = off.tree.nodes ∧ on.tree.root = off.tree.root ∧
        ∀ resolved, on.toValue resolved = .ok exported ∧ off.toValue resolved = .ok exported) := by
  constructor
  · intro options
    obtain ⟨config, hbuild⟩ := exists_build h options
    have hrepresents := represents_of_build hbuild
    refine ⟨config, hbuild, fun path key value hleaf => ?_⟩
    obtain ⟨inner, hreach, hmem, hvalue⟩ := hleaf
    obtain ⟨node, hwalk, htree, hstored⟩ := hrepresents.getRaw?_of_mem hreach
    have hkey : node.getRaw? key = some (.value (options.store value)) :=
      hstored key value hmem hvalue
    have htreatment : node.tree.treatment = options.treatment := by
      rw [htree, hrepresents.treatment_eq]
    refine ⟨node, hwalk, ?_, fun hstring => ?_⟩
    · rintro text rfl htext
      rw [Options.store_of_plain htext] at hkey
      exact Node.getValue_of_plain htreatment hkey fun _ => Options.hasDollar_of_denote htext
    · rw [Options.store_of_not_string hstring] at hkey
      exact Node.getValue_of_not_string hkey hstring
  · intro hplain autoInfer
    obtain ⟨on, hon⟩ := exists_build h ⟨autoInfer, true⟩
    have hoff := build_of_plain hplain hon
    have hdescends := (represents_of_build hon).descends
    obtain ⟨exported, hexported⟩ := Tree.exists_exportFrom hdescends on.tree.root
    have hstored : on.toValue false = .ok exported := hexported
    refine ⟨on, _, exported, hon, hoff, rfl, rfl, fun resolved => ?_⟩
    have hsame : on.toValue false = Config.toValue ⟨{ on.tree with
        treatment := Options.treatment ⟨autoInfer, false⟩ }, ⟨autoInfer, false⟩⟩ false :=
      toValue_false_congr hdescends rfl rfl
    cases resolved with
    | false => exact ⟨hstored, hsame.symm.trans hstored⟩
    | true =>
      rw [toValue_of_plain (represents_of_build hon) hplain,
        toValue_of_plain (represents_of_build hoff) hplain]
      exact ⟨hstored, hsame.symm.trans hstored⟩

/-- A mapping with one option, whose text is a quoted number. -/
def quotedMapping : Mapping :=
  [("a", .mapping [("b", .mapping [("x", .string "'42'")])])]

/-- The quotes are taken off once, and what they held stays a text. -/
theorem getValue_quoted :
    ∃ config, Config.build {} quotedMapping rootLabel 0 = .ok config ∧
      ∃ node, config.root.walk ["a", "b"] = .ok node ∧ node.getValue "x" = .ok (.string "42") := by
  have hbuild : Config.build ⟨false, false⟩ quotedMapping rootLabel 0 =
      .ok ⟨⟨#[⟨.options, [("x", .value (.string "'42'"))], some (some 1)⟩,
        ⟨.subsections, [("b", .node 0)], some (some 2)⟩,
        ⟨.sections, [("a", .node 1)], some none⟩], 2, Options.treatment ⟨false, false⟩⟩,
        ⟨false, false⟩⟩ := rfl
  have hleaf : quotedMapping.LeafAt ["a", "b"] "x" (.string "'42'") :=
    ⟨_, .step List.mem_cons_self (.step List.mem_cons_self (.here _)), List.mem_cons_self, rfl⟩
  have hinfer : Value.infer "'42'" = .string "42" := by
    rw [Value.infer, Value.parseLiteral?_of_scalar (by decide)]
    rfl
  obtain ⟨config, hconfig, hread⟩ := (getValue_plain hbuild).1 {}
  obtain ⟨node, hwalk, htext, -⟩ := hread _ _ _ hleaf
  refine ⟨config, hconfig, node, hwalk, ?_⟩
  rw [htext "'42'" rfl (by decide), if_pos rfl, hinfer]

end Config

end ConfigTree
