import ConfigTree.Proofs.Config.Path
import ConfigTree.Proofs.Config.Plain
import ConfigTree.Proofs.Reference.Append

set_option relaxedAutoImplicit false
set_option autoImplicit false

/-!
# Lists of references

References to typed options can be written in a list, between brackets and with commas. When they are
substituted, the list becomes the literal text of the sequence of their values, whatever quotes,
commas and brackets there are in the values. So an option with such a text reads as the sequence.

## Main definitions

* `ConfigTree.Reference.writtenList` — the text of a list of references.

## Main results

* `ConfigTree.Reference.substitute_writtenList` — what is substituted for a list of references.
* `ConfigTree.Config.getValue_reference_list` — how an option with a list of references reads.
-/

namespace ConfigTree

/-! ## The text of a list -/

namespace Reference

variable {lookup : OptionPath → Option Value} {origin : OptionPath} {names : List String}
  {values : List Value}

/-- The text of the list of the references with the given names. -/
def writtenList (names : List String) : String :=
  "[" ++ Text.joined ", " (names.map written) ++ "]"

/-- The characters of a list of references. -/
lemma toList_writtenList (names : List String) :
    (writtenList names).toList =
      '[' :: ([',', ' '].intercalate (names.map fun name => (written name).toList) ++ [']']) := by
  simp [writtenList, Text.toList_joined, Function.comp_def]

/-- The text of a list that is not empty has references in it. -/
lemma hasDollar_writtenList (hne : names ≠ []) : hasDollar (writtenList names) = true := by
  obtain ⟨name, rest, rfl⟩ := List.exists_cons_of_ne_nil hne
  have hmem : '$' ∈ (writtenList (name :: rest)).toList := by
    rw [toList_writtenList]
    cases rest <;> simp [written]
  simpa [hasDollar] using hmem

/-- **A list of references** to values that are no texts is replaced by the literal text of the
sequence of the values.

**Proof sketch.** Each reference is replaced by the literal text of its value, and what stands
between the references stays as it is. A sequence is written with the same brackets and commas. -/
lemma substitute_writtenList (hnames : List.Forall₂ (Names lookup) names values)
    (hvalues : ∀ value ∈ values, value.isString = false) :
    substitute lookup origin (writtenList names) = .ok (Value.sequence values).toLiteral := by
  have hitems : List.Forall₂ (fun text found => expand lookup origin 0 origin text = .ok found)
      (names.map fun name => (written name).toList) (values.map Value.literalChars) := by
    rw [List.forall₂_map_left_iff, List.forall₂_map_right_iff]
    induction hnames with
    | nil => exact .nil
    | @cons name value names values hname hrest ih =>
      obtain ⟨hvalue, hvalues⟩ := List.forall_mem_cons.mp hvalues
      have hfound : expand lookup origin 0 origin (written name).toList =
          .ok (Value.literalChars value) := by
        rw [hname.expand_written_of_not_string hvalue, Value.toLiteral_toList hvalue]
      exact .cons hfound (ih hvalues)
  have hseparator : '$' ∉ [',', ' '] := by decide
  have hinner := expand_intercalate hseparator hitems
  have hclose : expand lookup origin 0 origin [']'] = .ok [']'] :=
    expand_of_no_dollar (by decide)
  rw [substitute_eq_ok_iff, toList_writtenList, Value.toLiteral_toList rfl, Value.literalChars,
    Value.literalItems_eq, expand_char lookup origin 0 origin (by decide), expand_append hinner,
    hclose]
  rfl

end Reference

/-! ## Options with a list of references -/

namespace Config

variable {mapping : Mapping} {label : String} {config : Config} {names : List String}
  {values : List Value}

/-- Where two keys lead, **a list of references** reads as the sequence of the values.

**Proof sketch.** The references are looked up from the top. What is substituted for the list is the
literal text of the sequence (`Reference.substitute_writtenList`), and inference takes it back to the
sequence (`Value.infer_toLiteral`). -/
lemma getValue_of_leads (h : config.tree.Represents ({} : Options).treatment 0 mapping)
    (hne : names ≠ []) (hnames : List.Forall₂ (Reference.Names config.root.stored?) names values)
    (hvalues : ∀ value ∈ values, value.isString = false ∧ value.Plain Binary64.IsFinite)
    {id : ℕ} {first second key : String}
    (hlead : config.tree.nodes.Leads config.tree.root [first, second] id)
    (hkey : (Node.mk config.tree id).getRaw? key =
      some (.value (.string (Reference.writtenList names)))) :
    (Node.mk config.tree id).getValue key = .ok (.sequence values) := by
  have hraw : ({} : Options).substitutes (Reference.writtenList names) = true := by
    rw [Options.substitutes, Reference.hasDollar_writtenList hne]
    rfl
  have hsubstitute : Reference.substitute (config.tree.nodes.stored? config.tree.root)
      ⟨normalizeKey first, normalizeKey second, key⟩ (Reference.writtenList names) =
        .ok (Value.sequence values).toLiteral :=
    Reference.substitute_writtenList hnames fun value hmem => (hvalues value hmem).1
  have hinfer : Value.infer (Value.sequence values).toLiteral = .sequence values := by
    apply Value.infer_toLiteral
    · exact .sequence fun value hmem => (hvalues value hmem).2
    · rfl
  rw [h.getValue_of_substitutes hlead hkey hraw, hsubstitute]
  exact congrArg Except.ok hinfer

/-- **A list of references** to options with typed values reads as the sequence of these values, if
all numbers in them are finite. It does so at every node whose keys are options, and under the full
path of the option, however the keys in the path and in the references are spelled.

**Proof sketch.** Two keys lead from the top to each node of options, and the full path of an option
begins with such keys. -/
theorem getValue_reference_list (hbuild : Config.build {} mapping label 0 = .ok config)
    (hne : names ≠ []) (hnames : List.Forall₂ (Reference.Names config.root.stored?) names values)
    (hvalues : ∀ value ∈ values, value.isString = false ∧ value.Plain Binary64.IsFinite) :
    (∀ id key, (Node.mk config.tree id).level = .options →
      (Node.mk config.tree id).getRaw? key =
        some (.value (.string (Reference.writtenList names))) →
      (Node.mk config.tree id).getValue key = .ok (.sequence values)) ∧
    ∀ path target, OptionPath.parse? path = some target →
      config.root.stored? target = some (.string (Reference.writtenList names)) →
      config.lookupValue path = .ok (.sequence values) := by
  have h := represents_of_build hbuild
  constructor
  · intro id key hlevel hkey
    have hid := Tree.Represents.lt_nodeCount_of_slot? (Node.getRaw?_eq_value_iff.mp hkey)
    obtain ⟨first, second, hlead⟩ := h.exists_leads_of_options hid hlevel
    exact getValue_of_leads h hne hnames hvalues hlead hkey
  · intro path target htarget hstored
    obtain ⟨id, hlead, hslot⟩ := Arena.stored?_eq_some_iff.mp hstored
    have hkey : (Node.mk config.tree id).getRaw? target.optionName =
        some (.value (.string (Reference.writtenList names))) :=
      Node.getRaw?_eq_value_iff.mpr hslot
    rw [lookupValue_eq_ok_iff, parentSegments, lastSegment,
      OptionPath.segments_eq_of_parse? htarget]
    exact ⟨id, hlead, getValue_of_leads h hne hnames hvalues hlead hkey⟩

end Config

/-! ## A sequence and a number in a list -/

/-- A sequence whose texts have brackets, commas, quotes and backslashes. -/
def bracketSequence : Value :=
  .sequence [.string "a, b]", .string "it's \\", .sequence [.null, .bool true]]

/-- The names of two options, one of them twice and in two spellings. -/
def listNames : List String :=
  ["a.main.x", "a.main.n", "A.Main.X"]

/-- A mapping with this sequence, a number, and a list of references to them. -/
def listMapping : Mapping :=
  [("a", .mapping [("main", .mapping [("x", bracketSequence), ("n", .integer (-7)),
    ("z", .string (Reference.writtenList listNames))])])]

/-- The configuration of that mapping. -/
def listConfig : Config :=
  ⟨⟨#[⟨.options, [("x", .value bracketSequence), ("n", .value (.integer (-7))),
      ("z", .value (.string (Reference.writtenList listNames)))], some (some 1)⟩,
    ⟨.subsections, [("main", .node 0)], some (some 2)⟩,
    ⟨.sections, [("a", .node 1)], some none⟩], 2, ({} : Options).treatment⟩, {}⟩

/-- The configuration of the mapping with three references in a list. -/
lemma build_listMapping : Config.build {} listMapping rootLabel 0 = .ok listConfig := by
  have hstore : ({} : Options).store (.string (Reference.writtenList listNames)) =
      .string (Reference.writtenList listNames) :=
    store_reference (Reference.hasDollar_writtenList (List.cons_ne_nil _ _))
  have hbuild : Config.build {} listMapping rootLabel 0 =
      .ok ⟨⟨#[⟨.options, [("x", .value bracketSequence), ("n", .value (.integer (-7))),
          ("z", .value (({} : Options).store (.string (Reference.writtenList listNames))))],
          some (some 1)⟩,
        ⟨.subsections, [("main", .node 0)], some (some 2)⟩,
        ⟨.sections, [("a", .node 1)], some none⟩], 2, ({} : Options).treatment⟩, {}⟩ := rfl
  rw [hbuild, hstore, listConfig]

namespace Config

/-- The list reads as the sequence of the three values. -/
theorem getValue_list_three :
    Reference.writtenList listNames =
      "[$\x7ba.main.x\x7d, $\x7ba.main.n\x7d, $\x7bA.Main.X\x7d]" ∧
    Config.build {} listMapping rootLabel 0 = .ok listConfig ∧
    (Node.mk listConfig.tree 0).getValue "z" =
      .ok (.sequence [bracketSequence, .integer (-7), bracketSequence]) ∧
    listConfig.lookupValue "A.MAIN.z" =
      .ok (.sequence [bracketSequence, .integer (-7), bracketSequence]) := by
  have hnames : List.Forall₂ (Reference.Names listConfig.root.stored?) listNames
      [bracketSequence, .integer (-7), bracketSequence] := by
    refine .cons ⟨?_, ⟨"a", "main", "x"⟩, rfl, rfl⟩ (.cons ⟨?_, ⟨"a", "main", "n"⟩, rfl, rfl⟩
      (.cons ⟨?_, ⟨"A", "Main", "X"⟩, rfl, rfl⟩ .nil))
    all_goals exact List.all_eq_true.mp (by decide)
  have hinner : (Value.sequence [.null, .bool true]).Plain Binary64.IsFinite := by
    apply Value.Plain.sequence
    simp only [List.forall_mem_cons]
    exact ⟨.null, .bool true, by simp⟩
  have hsequence : bracketSequence.Plain Binary64.IsFinite := by
    apply Value.Plain.sequence
    simp only [List.forall_mem_cons]
    exact ⟨.string _, .string _, hinner, by simp⟩
  have hvalues : ∀ value ∈ [bracketSequence, .integer (-7), bracketSequence],
      value.isString = false ∧ value.Plain Binary64.IsFinite := by
    simp only [List.forall_mem_cons]
    exact ⟨⟨rfl, hsequence⟩, ⟨rfl, .integer _⟩, ⟨rfl, hsequence⟩, by simp⟩
  have hread := getValue_reference_list build_listMapping (List.cons_ne_nil _ _) hnames hvalues
  exact ⟨by decide, build_listMapping, hread.1 0 "z" rfl rfl,
    hread.2 "A.MAIN.z" ⟨"A", "MAIN", "z"⟩ rfl rfl⟩

end Config

end ConfigTree
