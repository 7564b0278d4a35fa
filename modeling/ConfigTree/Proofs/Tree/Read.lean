import ConfigTree.Options
import ConfigTree.Proofs.Tree.Links

set_option relaxedAutoImplicit false
set_option autoImplicit false

/-!
# Reading the keys of a tree

What a key reads as depends on what is stored under it: a node and a value that is no text are read
as they are, and a text at the level of options is treated. What is stored in a built tree comes from
the mapping that the tree was built from.

## Main results

* `ConfigTree.Node.getValue_of_not_string` — a value that is no text is read as it is stored.
* `ConfigTree.Node.getValue_of_no_references` — so is a text in which nothing is substituted.
* `ConfigTree.Arena.stored?_eq_some_iff` — what the full path of an option leads to.
* `ConfigTree.Tree.Represents.getRaw?_of_mem` — a value of the mapping is stored where its path
  leads.
* `ConfigTree.Tree.Represents.exists_leaf` — there are no other values in the tree.
* `ConfigTree.Tree.Represents.getValue_of_substitutes` — the text of an option with its references.
-/

namespace ConfigTree

open Mapping (Reaches)

/-! ## One key -/

namespace Node

variable {node : Node} {key raw : String} {value : Value}

/-- A node finds a value under a key exactly if the value stands in the slot of this key. -/
lemma getRaw?_eq_value_iff :
    node.getRaw? key = some (.value value) ↔
      node.tree.nodes.slot? node.id key = some (.value value) := by
  rw [getRaw?]
  cases node.tree.nodes.slot? node.id key with
  | none => simp
  | some slot => cases slot <;> simp [Tree.entry]

/-- A stored value that is no text is read as it is stored. -/
lemma getValue_of_not_string (h : node.getRaw? key = some (.value value))
    (hvalue : value.isString = false) : node.getValue key = .ok value := by
  cases value with
  | string text => simp [Value.isString] at hvalue
  | _ => simp only [getValue, get, h]

/-- The text of an option is read as the treatment says. -/
lemma getValue_of_string (h : node.getRaw? key = some (.value (.string raw)))
    (hlevel : node.level = .options) : node.getValue key = node.resolve key raw := by
  simp only [getValue, get, h, hlevel, if_true]
  cases node.resolve key raw <;> rfl

/-- A text at another level is read as it is. -/
lemma getValue_of_level_ne (h : node.getRaw? key = some (.value (.string raw)))
    (hlevel : node.level ≠ .options) : node.getValue key = .ok (.string raw) := by
  simp only [getValue, get, h, hlevel, if_false]

/-- A text in which nothing is to be substituted is read as it is stored. -/
lemma getValue_of_no_references {options : Options}
    (htreatment : node.tree.treatment = options.treatment)
    (h : node.getRaw? key = some (.value (.string raw))) (hraw : hasDollar raw = false) :
    node.getValue key = .ok (.string raw) := by
  by_cases hlevel : node.level = .options
  · rw [getValue_of_string h hlevel, resolve, htreatment]
    simp [Options.treatment, Options.read, Options.substitutes, hraw]
  · exact getValue_of_level_ne h hlevel

end Node

/-- The option at a full path is what its last key holds where its first two lead. -/
lemma Arena.stored?_eq_some_iff {arena : Arena} {id : ℕ} {path : OptionPath} {value : Value} :
    arena.stored? id path = some value ↔
      ∃ target, arena.Leads id [path.sectionName, path.subsectionName] target ∧
        arena.slot? target path.optionName = some (.value value) := by
  constructor
  · intro h
    unfold stored? at h
    split at h
    · rename_i hsection
      split at h
      · rename_i hsubsection
        split at h
        · rename_i hoption
          obtain rfl := Option.some.inj h
          exact ⟨_, .step hsection (.step hsubsection (.here _)), hoption⟩
        · simp at h
      · simp at h
    · simp at h
  · rintro ⟨target, hlead, hoption⟩
    cases hlead with
    | step hsection hlead =>
      cases hlead with
      | step hsubsection hlead =>
        cases hlead
        simp only [stored?, hsection, hsubsection, hoption]

/-! ## All keys of a built tree -/

namespace Tree.Represents

variable {tree : Tree} {treatment : Treatment} {depth : ℕ} {mapping : Mapping}

/-- No node comes after the root. -/
lemma le_root (h : tree.Represents treatment depth mapping) {id : ℕ} (hid : id < tree.nodeCount) :
    id ≤ tree.root := by
  rw [nodeCount, h.size_eq] at hid
  omega

/-- The number of keys that lead to a node decides its level. -/
lemma level_of_leads (h : tree.Represents treatment depth mapping) {path : List String} {id : ℕ}
    (hlead : tree.nodes.Leads tree.root path id) (hid : id < tree.nodeCount) :
    (tree.nodes.data id).level = Level.ofDepth (depth + path.length) := by
  obtain ⟨path', _, _, _, -, hlead', hholds⟩ := h.exists_holds hid
  have hlength : path.length = path'.length := by
    have hkeys := (h.keysTo_of_leads hlead).symm.trans (h.keysTo_of_leads hlead')
    simpa using congrArg List.length hkeys
  rw [hholds.level_eq, hlength]

/-- If the top stands at depth zero, two keys lead to each node whose keys are options. -/
lemma exists_leads_of_options (h : tree.Represents treatment 0 mapping) {id : ℕ}
    (hid : id < tree.nodeCount) (hlevel : (Node.mk tree id).level = .options) :
    ∃ first second, tree.nodes.Leads tree.root [first, second] id := by
  obtain ⟨path, _, _, _, -, hlead, hholds⟩ := h.exists_holds hid
  have hdepth : Level.ofDepth (0 + path.length) = .options := hholds.level_eq.symm.trans hlevel
  rcases path with _ | ⟨first, _ | ⟨second, _ | ⟨third, more⟩⟩⟩
  · simp [Level.ofDepth] at hdepth
  · simp [Level.ofDepth] at hdepth
  · exact ⟨first, second, hlead⟩
  · simp [Level.ofDepth] at hdepth

/-- **A value of the mapping** is stored, in its stored form, where its path leads. -/
lemma getRaw?_of_mem (h : tree.Represents treatment depth mapping) {path : List String}
    {inner : Mapping} (hreach : Reaches mapping path inner) :
    ∃ node, tree.top.walk path = .ok node ∧ node.tree = tree ∧
      ∀ key value, (key, value) ∈ inner → value.asMapping? = none →
        node.getRaw? key = some (.value (treatment.store value)) := by
  obtain ⟨parent, lo, target, hlead, hholds⟩ := h.holds.exists_leads hreach
  refine ⟨⟨tree, target⟩, Node.walk_eq_ok_iff.mpr ⟨rfl, hlead⟩, rfl, fun key value hmem hvalue => ?_⟩
  obtain ⟨slot, hslot, hkeeps⟩ := hholds.exists_slot hmem
  cases hkeeps with
  | leaf => exact Node.getRaw?_eq_value_iff.mpr hslot
  | node => simp [Value.asMapping?] at hvalue

/-- Only a node of the tree has a slot. -/
lemma lt_nodeCount_of_slot? {id : ℕ} {key : String} {slot : Slot}
    (hslot : tree.nodes.slot? id key = some slot) : id < tree.nodeCount := by
  by_contra hid
  rw [Arena.slot?, Arena.data_of_size_le (Nat.le_of_not_lt hid)] at hslot
  simp [default, Table.get?] at hslot

/-- **Every stored value** is the stored form of a value of the mapping, at the end of a path. -/
lemma exists_leaf (h : tree.Represents treatment depth mapping) {id : ℕ} {key : String}
    {stored : Value} (hslot : tree.nodes.slot? id key = some (.value stored)) :
    ∃ path inner k value, Reaches mapping path inner ∧ tree.nodes.Leads tree.root path id ∧
      (k, value) ∈ inner ∧ normalizeKey k = normalizeKey key ∧ value.asMapping? = none ∧
      stored = treatment.store value := by
  obtain ⟨path, inner, parent, lo, hreach, hlead, hholds⟩ :=
    h.exists_holds (lt_nodeCount_of_slot? hslot)
  obtain ⟨⟨k, value⟩, hmem, hkeeps⟩ := (exists_of_forall₂ (hholds.stores.forall₂ rfl)).2 _
    (hholds.slot?_eq_some_iff.mp hslot)
  generalize normalizeKey key = key' at hkeeps ⊢
  generalize hentry : Slot.value stored = slot at hkeeps
  cases hkeeps with
  | leaf hvalue =>
    exact ⟨path, inner, k, value, hreach, hlead, hmem, rfl, hvalue, Slot.value.inj hentry⟩
  | node => simp at hentry

/-- **The text of an option**, below a section and a subsection, reads as what the text denotes when its
references are substituted. -/
lemma getValue_of_substitutes {options : Options} (h : tree.Represents options.treatment 0 mapping)
    {first second key raw : String} {id : ℕ}
    (hlead : tree.nodes.Leads tree.root [first, second] id)
    (hkey : (Node.mk tree id).getRaw? key = some (.value (.string raw)))
    (hraw : options.substitutes raw = true) :
    (Node.mk tree id).getValue key = (Reference.substitute (tree.nodes.stored? tree.root)
      ⟨normalizeKey first, normalizeKey second, key⟩ raw).map options.denote := by
  have hid : id < tree.nodeCount := lt_nodeCount_of_slot? (Node.getRaw?_eq_value_iff.mp hkey)
  have hlevel : (Node.mk tree id).level = .options := h.level_of_leads hlead hid
  have hfull : tree.nodes.fullKey id key = [normalizeKey first, normalizeKey second, key] := by
    rw [Arena.fullKey, h.keysTo_of_leads hlead]
    rfl
  rw [Node.getValue_of_string hkey hlevel, Node.resolve, h.treatment_eq]
  simp only [Options.treatment, Options.read, hraw, hfull, h.topOf_eq (h.le_root hid),
    OptionPath.ofList?, if_true]

end Tree.Represents

end ConfigTree
