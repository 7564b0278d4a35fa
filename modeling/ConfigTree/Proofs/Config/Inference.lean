import ConfigTree.Proofs.Config.Path
import ConfigTree.Proofs.Config.Plain
import ConfigTree.Proofs.Config.Reading
import ConfigTree.Proofs.Value.Coercion

set_option relaxedAutoImplicit false
set_option autoImplicit false

/-!
# Typed reads with and without inference

Without inference the text of an option is stored as it is written, and a typed read looks for an
integer or a truth value in it. With inference the text may be stored as a typed value, which a
typed read takes as it is. The two ways differ in what they accept, but inference takes away no read
that works without it: an integer or a truth value that is found in the text is found in what the
text denotes.

## Main results

* `ConfigTree.Tree.Represents.getRaw?_of_leafAt` — a value is stored where its keys lead, in any
  spelling.
* `ConfigTree.Node.toInt_infer`, `ConfigTree.Node.toBool_infer` — typed reads of a text and of what
  it denotes.
* `ConfigTree.Config.infer_keeps_reads` — the reads of integers and truth values that inference
  keeps.
-/

namespace ConfigTree

/-! ## The options of a mapping in its tree -/

/-- **A value of the mapping** is stored where its keys lead, however these are spelled. -/
lemma Tree.Represents.getRaw?_of_leafAt {tree : Tree} {treatment : Treatment} {depth : ℕ}
    {mapping : Mapping} (h : tree.Represents treatment depth mapping) {keys keys' : List String}
    {key key' : String} {value : Value} (hleaf : mapping.LeafAt keys key value)
    (hkeys : keys'.map normalizeKey = keys.map normalizeKey)
    (hkey : normalizeKey key' = normalizeKey key) :
    ∃ id, tree.top.walk keys' = .ok ⟨tree, id⟩ ∧
      (Node.mk tree id).getRaw? key' = some (.value (treatment.store value)) := by
  obtain ⟨inner, hreach, hmem, hvalue⟩ := hleaf
  obtain ⟨node, hwalk, htree, hstored⟩ := h.getRaw?_of_mem hreach
  obtain ⟨-, hlead⟩ := Node.walk_eq_ok_iff.mp hwalk
  rw [← Arena.leads_map_normalizeKey_iff, ← hkeys, Arena.leads_map_normalizeKey_iff] at hlead
  refine ⟨node.id, Node.walk_eq_ok_iff.mpr ⟨rfl, hlead⟩, ?_⟩
  have hslot := Node.getRaw?_eq_value_iff.mp (hstored key value hmem hvalue)
  rw [htree] at hslot
  rw [Node.getRaw?_eq_value_iff, ← hslot, Arena.slot?, Arena.slot?, hkey]

/-- An option without dollar signs reads as it is stored. -/
lemma Tree.Represents.getValue_of_leafAt {tree : Tree} {options : Options} {depth : ℕ}
    {mapping : Mapping} (h : tree.Represents options.treatment depth mapping)
    {keys keys' : List String} {key key' : String} {value : Value}
    (hleaf : mapping.LeafAt keys key value)
    (hvalue : ∀ text, value = .string text → hasDollar text = false)
    (hkeys : keys'.map normalizeKey = keys.map normalizeKey)
    (hkey : normalizeKey key' = normalizeKey key) :
    ∃ node, tree.top.walk keys' = .ok node ∧ node.getValue key' = .ok (options.store value) := by
  obtain ⟨id, hwalk, hraw⟩ := h.getRaw?_of_leafAt hleaf hkeys hkey
  refine ⟨⟨tree, id⟩, hwalk, Node.getValue_of_plain h.treatment_eq hraw fun _ => ?_⟩
  exact Options.hasDollar_of_store hvalue

/-! ## The typed reads of a value stored with and without inference -/

namespace Node

variable {node node' : Node} {key key' : String} {value : Value} {interpolate : Bool}

/-- An integer that is found in a text is found in what the text denotes. -/
lemma toInt_infer {text : String} {n : Int64} (h : node.toInt key (.string text) = .ok n) :
    node'.toInt key' (Value.infer text) = .ok n := by
  unfold toInt at h
  simp only at h
  split at h
  · rename_i m hm
    obtain rfl := Except.ok.inj h
    rcases Value.infer_of_int? hm with hinfer | hinfer
    · rw [hinfer]
      rfl
    · rw [hinfer]
      simp only [toInt, hm]
  · simp at h

/-- A truth value that a word stands for is that of what the word denotes. -/
lemma toBool_infer {text : String} {b : Bool} (h : node.toBool key (.string text) = .ok b) :
    node'.toBool key' (Value.infer text) = .ok b := by
  unfold toBool at h
  split at h
  · rename_i found hfound
    obtain rfl := Except.ok.inj h
    simp only [toBool, Value.toBool?_infer hfound]
  · simp at h

/-- An integer that is found in a value stored without inference is found in the value stored with
inference. -/
lemma toInt_store (hvalue : ∀ text, value = .string text → hasDollar text = false) {n : Int64}
    (h : node.toInt key (Options.store ⟨false, interpolate⟩ value) = .ok n) :
    node'.toInt key' (Options.store ⟨true, interpolate⟩ value) = .ok n := by
  cases value with
  | string text =>
    rw [Options.store_of_plain (hvalue text rfl)] at h ⊢
    exact toInt_infer h
  | integer m => exact h
  | null | bool | float | sequence | mapping => simp [Options.store, toInt] at h

/-- What is stored without inference and read as a truth value reads as the same one with inference.
-/
lemma toBool_store (hvalue : ∀ text, value = .string text → hasDollar text = false) {b : Bool}
    (h : node.toBool key (Options.store ⟨false, interpolate⟩ value) = .ok b) :
    node'.toBool key' (Options.store ⟨true, interpolate⟩ value) = .ok b := by
  cases value with
  | string text =>
    rw [Options.store_of_plain (hvalue text rfl)] at h ⊢
    exact toBool_infer h
  | bool b' => exact h
  | integer m =>
    simp only [Options.store, toBool] at h ⊢
    cases hm : (Value.integer m).toBool? <;> simp_all
  | null | float | sequence | mapping => simp [Options.store, toBool, Value.toBool?] at h

end Node

/-! ## Configurations -/

namespace Config

variable {mapping : Mapping} {label : String} {depth : ℕ}

/-- **Inference keeps the reads** of integers and truth values. A mapping that becomes a
configuration does so with and without inference. Take an option of it that has no dollar sign. If
the read of an integer or of a truth value succeeds without inference, it succeeds with the same
result if texts are inferred, for the key at its node and along each path to it, in any spelling.

**Proof sketch.** The same keys lead to the option in both trees. One stores a text as it is and the
other stores what it denotes, and both are read as they are stored. A word of digits is no literal
or one for the same integer (`Value.infer_of_int?`), and a word for a truth value is no literal or
one for the same truth value (`Value.toBool?_infer`). -/
theorem infer_keeps_reads {given : Options} {config : Config}
    (h : Config.build given mapping label depth = .ok config) (interpolate : Bool) :
    ∃ off on, Config.build ⟨false, interpolate⟩ mapping label depth = .ok off ∧
      Config.build ⟨true, interpolate⟩ mapping label depth = .ok on ∧
      ∀ keys key value, mapping.LeafAt keys key value →
        (∀ text, value = .string text → hasDollar text = false) →
        (∀ keys' key', keys'.map normalizeKey = keys.map normalizeKey →
          normalizeKey key' = normalizeKey key →
            ∃ node node', off.root.walk keys' = .ok node ∧ on.root.walk keys' = .ok node' ∧
              (∀ n, node.getInt key' = .ok n → node'.getInt key' = .ok n) ∧
              ∀ b, node.getBool key' = .ok b → node'.getBool key' = .ok b) ∧
        ∀ path, (Text.segments path).map normalizeKey = (keys ++ [key]).map normalizeKey →
          (∀ n, off.getInt path = .ok n → on.getInt path = .ok n) ∧
          ∀ b, off.getBool path = .ok b → on.getBool path = .ok b := by
  obtain ⟨off, hoff⟩ := exists_build h ⟨false, interpolate⟩
  obtain ⟨on, hon⟩ := exists_build h ⟨true, interpolate⟩
  refine ⟨off, on, hoff, hon, fun keys key value hleaf hplain => ?_⟩
  have hnodes (keys' : List String) (key' : String)
      (hkeys : keys'.map normalizeKey = keys.map normalizeKey)
      (hkey : normalizeKey key' = normalizeKey key) :
      ∃ node node', off.root.walk keys' = .ok node ∧ on.root.walk keys' = .ok node' ∧
        (∀ n, node.getInt key' = .ok n → node'.getInt key' = .ok n) ∧
        ∀ b, node.getBool key' = .ok b → node'.getBool key' = .ok b := by
    obtain ⟨node, hwalk, hvalue⟩ :=
      (represents_of_build hoff).getValue_of_leafAt hleaf hplain hkeys hkey
    obtain ⟨node', hwalk', hvalue'⟩ :=
      (represents_of_build hon).getValue_of_leafAt hleaf hplain hkeys hkey
    refine ⟨node, node', hwalk, hwalk', fun n hn => ?_, fun b hb => ?_⟩
    · rw [Node.getInt, hvalue] at hn
      rw [Node.getInt, hvalue']
      exact Node.toInt_store hplain hn
    · rw [Node.getBool, hvalue] at hb
      rw [Node.getBool, hvalue']
      exact Node.toBool_store hplain hb
  refine ⟨hnodes, fun path hpath => ?_⟩
  rw [segments_eq, List.map_append, List.map_append] at hpath
  obtain ⟨hkeys, hkey⟩ := List.append_inj' hpath rfl
  obtain ⟨node, node', hwalk, hwalk', hint, hbool⟩ :=
    hnodes (parentSegments path) (lastSegment path) hkeys (List.singleton_inj.mp hkey)
  rw [getInt, getInt, getBool, getBool, parentOf_of_walk hwalk, parentOf_of_walk hwalk']
  exact ⟨hint, hbool⟩

/-- A mapping with two options: digits that are no literal, and a word that is one. -/
def wordMapping : Mapping :=
  [("a", .mapping [("b", .mapping [("x", .string " +007"), ("y", .string "True")])])]

/-- Both are read with inference as they are without it. -/
theorem infer_keeps_reads_words :
    ∃ on, Config.build {} wordMapping rootLabel 0 = .ok on ∧
      on.getInt "a.b.x" = .ok 7 ∧ on.getBool "a.B.y" = .ok true := by
  have hbuild : Config.build ⟨false, true⟩ wordMapping rootLabel 0 = .ok ⟨⟨#[
      ⟨.options, [("x", .value (.string " +007")), ("y", .value (.string "True"))], some (some 1)⟩,
      ⟨.subsections, [("b", .node 0)], some (some 2)⟩,
      ⟨.sections, [("a", .node 1)], some none⟩], 2, Options.treatment ⟨false, true⟩⟩,
      ⟨false, true⟩⟩ := rfl
  have hx : wordMapping.LeafAt ["a", "b"] "x" (.string " +007") :=
    ⟨_, .step List.mem_cons_self (.step List.mem_cons_self (.here _)), by simp, rfl⟩
  have hy : wordMapping.LeafAt ["a", "b"] "y" (.string "True") :=
    ⟨_, .step List.mem_cons_self (.step List.mem_cons_self (.here _)), by simp, rfl⟩
  obtain ⟨off, on, hoff, hon, hkeeps⟩ := infer_keeps_reads hbuild true
  obtain rfl := Except.ok.inj (hbuild.symm.trans hoff)
  obtain ⟨-, hint⟩ := hkeeps _ _ _ hx (by rintro _ ⟨⟩; decide)
  obtain ⟨-, hbool⟩ := hkeeps _ _ _ hy (by rintro _ ⟨⟩; decide)
  exact ⟨on, hon, (hint "a.b.x" (by decide)).1 7 rfl,
    (hbool "a.B.y" (by decide)).2 true rfl⟩

end Config

end ConfigTree
