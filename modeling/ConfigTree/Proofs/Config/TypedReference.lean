import ConfigTree.Config.Source
import ConfigTree.Proofs.Config.Path
import ConfigTree.Proofs.Config.Plain
import ConfigTree.Proofs.Reference.Append

set_option relaxedAutoImplicit false
set_option autoImplicit false

/-!
# References to typed options

An option whose text is a single reference to an option with a typed value reads as the value that
inference finds in the literal text of that value. This is the value itself, unless a number in it is
infinite: the literal text of an infinite number is no literal, and the option reads as a text.

## Main results

* `ConfigTree.Ini.Document.string_of_leafAt` — where the options of an INI text stand.
* `ConfigTree.Reference.substitute_reference` — what is substituted for a single reference.
* `ConfigTree.Config.getValue_reference` — how an option with a single reference reads.
-/

namespace ConfigTree

/-! ## The mapping of an INI text -/

/-- A value in a mapping of mappings stands in one of these mappings. -/
lemma Mapping.LeafAt.of_mappings {α : Type} {table : Table α} {f : α → Mapping} {path : List String}
    {key : String} {value : Value}
    (h : LeafAt (table.map fun entry => (entry.1, .mapping (f entry.2))) path key value) :
    ∃ k rest a, path = k :: rest ∧ (f a).LeafAt rest key value := by
  obtain ⟨inner, hreach, hmem, hvalue⟩ := h
  cases hreach with
  | here =>
    obtain ⟨_, -, heq⟩ := List.mem_map.mp hmem
    obtain ⟨-, rfl⟩ := Prod.mk.inj heq
    simp [Value.asMapping?] at hvalue
  | step hin hreach =>
    obtain ⟨entry, -, heq⟩ := List.mem_map.mp hin
    obtain ⟨-, heq⟩ := Prod.mk.inj heq
    obtain rfl := Value.mapping.inj heq
    exact ⟨_, _, entry.2, rfl, _, hreach, hmem, hvalue⟩

/-- All values in the mapping of an INI text are texts, and they stand two levels below its top. -/
lemma Ini.Document.string_of_leafAt {document : Document} {path : List String} {key : String}
    {value : Value} (h : document.toMapping.LeafAt path key value) :
    path.length = 2 ∧ ∃ text, value = .string text := by
  obtain ⟨_, _, subsections, rfl, hsection⟩ := Mapping.LeafAt.of_mappings h
  obtain ⟨_, _, options, rfl, inner, hreach, hmem, -⟩ := hsection.of_mappings
  cases hreach with
  | here =>
    obtain ⟨_, -, heq⟩ := List.mem_map.mp hmem
    obtain ⟨-, rfl⟩ := Prod.mk.inj heq
    exact ⟨rfl, _, rfl⟩
  | step hin =>
    obtain ⟨_, -, heq⟩ := List.mem_map.mp hin
    simp at heq

/-! ## A single reference -/

namespace Reference

variable {lookup : OptionPath → Option Value} {origin target : OptionPath} {name : String}
  {value : Value}

/-- **A single reference** to a value that is no text is replaced by its literal text. -/
lemma substitute_reference (hname : ∀ c ∈ name.toList, isNameChar c)
    (htarget : OptionPath.parse? name = some target) (hlookup : lookup target = some value)
    (hvalue : value.isString = false) :
    substitute lookup origin ("$\x7b" ++ name ++ "\x7d") = .ok value.toLiteral := by
  have hnames : Names lookup name value := ⟨hname, target, htarget, hlookup⟩
  exact substitute_eq_ok_iff.mpr (hnames.expand_written_of_not_string hvalue)

end Reference

/-! ## Options with a single reference -/

namespace Config

variable {content : String} {config : Config}

/-- A configuration from an INI text represents the mapping of the text. -/
lemma represents_of_load (hload : Source.load {} (.text .ini content) = .ok config) :
    ∃ document : Ini.Document,
      config.tree.Represents ({} : Options).treatment 0 document.toMapping := by
  obtain ⟨mapping, hmapping, hbuild⟩ := bind_eq_ok_iff.mp hload
  simp only [Source.mapping, Format.mapping, Ini.parse] at hmapping
  split at hmapping
  · rename_i document _
    obtain rfl := Except.ok.inj hmapping
    exact ⟨document, represents_of_build hbuild⟩
  · simp at hmapping

/-- A stored value of an option of an INI text has no mappings inside. -/
lemma plain_of_stored? (hload : Source.load {} (.text .ini content) = .ok config)
    {target : OptionPath} {value : Value} (hvalue : config.root.stored? target = some value) :
    value.Plain fun _ => True := by
  obtain ⟨document, h⟩ := represents_of_load hload
  obtain ⟨id, -, hslot⟩ := Arena.stored?_eq_some_iff.mp hvalue
  obtain ⟨path, inner, key, leaf, hreach, -, hmem, -, hleaf, rfl⟩ := h.exists_leaf hslot
  obtain ⟨-, text, rfl⟩ := Ini.Document.string_of_leafAt ⟨inner, hreach, hmem, hleaf⟩
  simp only [Options.treatment, Options.store, Options.denote]
  split
  · exact .string text
  · exact Value.plain_infer text

/-- **An option with a single reference** to a value that is no text reads as what inference finds in
the literal text of that value.

**Proof sketch.** All options of an INI text stand two levels below the top, where references are
substituted; they are looked up from the top. -/
lemma getValue_reference (hload : Source.load {} (.text .ini content) = .ok config) {name : String}
    {target : OptionPath} {value : Value} (hname : ∀ c ∈ name.toList, Reference.isNameChar c)
    (htarget : OptionPath.parse? name = some target)
    (hvalue : config.root.stored? target = some value) (hstring : value.isString = false)
    {id : ℕ} {key : String} (hkey : (Node.mk config.tree id).getRaw? key =
      some (.value (.string ("$\x7b" ++ name ++ "\x7d")))) :
    (Node.mk config.tree id).getValue key = .ok (Value.infer value.toLiteral) := by
  obtain ⟨document, h⟩ := represents_of_load hload
  have hslot := Node.getRaw?_eq_value_iff.mp hkey
  obtain ⟨path, inner, _, leaf, hreach, hlead, hmem, -, hleaf, -⟩ := h.exists_leaf hslot
  obtain ⟨hlength, -⟩ := Ini.Document.string_of_leafAt ⟨inner, hreach, hmem, hleaf⟩
  obtain ⟨first, second, rfl⟩ := List.length_eq_two.mp hlength
  have hdollar : ({} : Options).substitutes ("$\x7b" ++ name ++ "\x7d") = true := by
    simp [Options.substitutes, hasDollar]
  have hread : Reference.substitute (config.tree.nodes.stored? config.tree.root)
      ⟨normalizeKey first, normalizeKey second, key⟩ ("$\x7b" ++ name ++ "\x7d") =
        .ok value.toLiteral :=
    Reference.substitute_reference hname htarget hvalue hstring
  rw [h.getValue_of_substitutes hlead hkey hdollar, hread]
  rfl

/-- **An option with a single reference** to an option that holds a typed value reads as this value
exactly if all numbers in the value are finite. If one of them is not, it reads as the text that the
value is written as. The referenced option itself reads as the value in any case.

**Proof sketch.** Inference undoes the writing of a value exactly if its numbers are finite
(`Value.infer_toLiteral`, `Value.infer_toLiteral_of_not_finite`). -/
theorem getValue_typed_reference (hload : Source.load {} (.text .ini content) = .ok config)
    {name : String} {target : OptionPath} {value : Value}
    (hname : ∀ c ∈ name.toList, Reference.isNameChar c)
    (htarget : OptionPath.parse? name = some target)
    (hvalue : config.root.stored? target = some value) (hstring : value.isString = false) :
    config.lookupValue name = .ok value ∧
    ∀ id key, (Node.mk config.tree id).getRaw? key =
        some (.value (.string ("$\x7b" ++ name ++ "\x7d"))) →
      ((Node.mk config.tree id).getValue key = .ok value ↔ value.Plain Binary64.IsFinite) ∧
      (¬ value.Plain Binary64.IsFinite →
        (Node.mk config.tree id).getValue key = .ok (.string value.toLiteral)) := by
  have hplain := plain_of_stored? hload hvalue
  refine ⟨?_, fun id key hkey => ?_⟩
  · obtain ⟨id, hlead, hslot⟩ := Arena.stored?_eq_some_iff.mp hvalue
    rw [lookupValue_eq_ok_iff, parentSegments, lastSegment,
      OptionPath.segments_eq_of_parse? htarget]
    exact ⟨id, hlead, Node.getValue_of_not_string (Node.getRaw?_eq_value_iff.mpr hslot) hstring⟩
  · have hread := getValue_reference hload hname htarget hvalue hstring hkey
    rw [hread]
    by_cases hfinite : value.Plain Binary64.IsFinite
    · simp [Value.infer_toLiteral hfinite hstring, hfinite]
    · have hinfer := Value.infer_toLiteral_of_not_finite hplain hfinite
      rw [hinfer]
      refine ⟨⟨fun h => ?_, fun h => absurd h hfinite⟩, fun _ => rfl⟩
      rw [← Except.ok.inj h] at hstring
      simp [Value.isString] at hstring

end Config

/-! ## A finite value and a number that is too large -/

/-- An INI text with a number beyond the finite ones, a value without numbers, and references to
both. -/
def referenceText : String :=
  "[a]\nx = 1e999\ny = $\x7ba.main.x\x7d\nn = None\nm = $\x7ba.main.n\x7d\n"

/-- The mapping of that text. -/
def referenceMapping : Mapping :=
  [("a", .mapping [("main", .mapping [("x", .string "1e999"), ("y", .string "$\x7ba.main.x\x7d"),
    ("n", .string "None"), ("m", .string "$\x7ba.main.n\x7d")])])]

/-- The nodes of that mapping, if texts are stored in this way. -/
def referenceNodes (store : Value → Value) : Arena :=
  #[⟨.options, [("x", .value (store (.string "1e999"))),
      ("y", .value (store (.string "$\x7ba.main.x\x7d"))), ("n", .value (store (.string "None"))),
      ("m", .value (store (.string "$\x7ba.main.n\x7d")))], some (some 1)⟩,
    ⟨.subsections, [("main", .node 0)], some (some 2)⟩,
    ⟨.sections, [("a", .node 1)], some none⟩]

/-- The configuration of that text. -/
def referenceConfig : Config :=
  ⟨⟨referenceNodes ({} : Options).store, 2, ({} : Options).treatment⟩, {}⟩

/-- The numeral is too large for the finite numbers, so that it is stored as infinity. -/
lemma store_infinity : ({} : Options).store (.string "1e999") = .float (.infinite false) := by
  have hnumber : Value.parseLiteral? "1e999".toList = Value.numberLiteral? "1e999".toList :=
    Value.parseLiteral?_of_head (by decide) (by decide)
  have hdecimal : Value.decimalLiteral? "1e999".toList = none := by decide
  have hradix : Value.radixLiteral? "1e999".toList = none := by decide
  have hfloat : Value.floatLiteral? "1e999".toList = some (.infinite false) := by decide
  have hinfer : Value.infer "1e999" = .float (.infinite false) := by
    rw [Value.infer, hnumber, Value.numberLiteral?]
    simp only [hdecimal, hradix, hfloat, Option.map_some, Option.getD_some]
  simp [Options.store, Options.denote, hasDollar, hinfer]

/-- The word is stored as null. -/
lemma store_none : ({} : Options).store (.string "None") = .null := by
  have hinfer : Value.infer "None" = .null := by
    rw [Value.infer, Value.parseLiteral?_of_scalar (by decide)]
    rfl
  simp [Options.store, Options.denote, hasDollar, hinfer]

/-- The tree is evaluated for a way of storing that is not known, so that no number is rounded on the
way. -/
lemma build_referenceMapping (treatment : Treatment) :
    Tree.build treatment referenceMapping rootLabel 0 =
      .ok ⟨referenceNodes treatment.store, 2, treatment⟩ := rfl

set_option maxRecDepth 2000 in
/-- The text is parsed and its mapping is built. -/
lemma load_referenceText : Source.load {} (.text .ini referenceText) = .ok referenceConfig := by
  have hparse : (Source.text .ini referenceText).mapping = .ok referenceMapping := rfl
  rw [Source.load, hparse]
  simp only [bind, Except.bind, Config.build, build_referenceMapping, Except.map]
  rfl

namespace Config

/-- The reference to the value without numbers reads as this value. -/
theorem getValue_reference_none :
    referenceConfig.root.stored? ⟨"a", "main", "n"⟩ = some .null ∧
      (Node.mk referenceConfig.tree 0).getValue "m" = .ok .null := by
  have hvalue : referenceConfig.root.stored? ⟨"a", "main", "n"⟩ = some .null :=
    congrArg some store_none
  have hkey : (Node.mk referenceConfig.tree 0).getRaw? "m" =
      some (.value (.string ("$\x7b" ++ "a.main.n" ++ "\x7d"))) :=
    congrArg (fun value => some (Entry.value value)) (store_reference (by decide))
  have hname : ∀ c ∈ "a.main.n".toList, Reference.isNameChar c :=
    List.all_eq_true.mp (by decide)
  obtain ⟨-, hread⟩ := getValue_typed_reference load_referenceText hname rfl hvalue rfl
  exact ⟨hvalue, (hread 0 "m" hkey).1.mpr .null⟩

/-- The reference to the infinite number reads as a text, although the option it refers to reads as
this number. -/
theorem getValue_reference_infinity :
    Source.load {} (.text .ini referenceText) = .ok referenceConfig ∧
      referenceConfig.root.stored? ⟨"a", "main", "x"⟩ = some (.float (.infinite false)) ∧
      (Node.mk referenceConfig.tree 0).getRaw? "y" =
        some (.value (.string "$\x7ba.main.x\x7d")) ∧
      (Node.mk referenceConfig.tree 0).getValue "x" = .ok (.float (.infinite false)) ∧
      (Node.mk referenceConfig.tree 0).getValue "y" = .ok (.string "inf") := by
  have hx : (Node.mk referenceConfig.tree 0).getRaw? "x" =
      some (.value (.float (.infinite false))) :=
    congrArg (fun value => some (Entry.value value)) store_infinity
  have hvalue : referenceConfig.root.stored? ⟨"a", "main", "x"⟩ =
      some (.float (.infinite false)) := congrArg some store_infinity
  have hy : (Node.mk referenceConfig.tree 0).getRaw? "y" =
      some (.value (.string ("$\x7b" ++ "a.main.x" ++ "\x7d"))) :=
    congrArg (fun value => some (Entry.value value)) (store_reference (by decide))
  have hname : ∀ c ∈ "a.main.x".toList, Reference.isNameChar c :=
    List.all_eq_true.mp (by decide)
  have hread := getValue_reference load_referenceText hname rfl hvalue rfl hy
  have hfinite : ¬ (Value.float (.infinite false)).Plain Binary64.IsFinite := by
    intro h
    cases h with
    | float hx =>
      obtain ⟨negative, rank, heq⟩ := hx
      simp at heq
  rw [Value.infer_toLiteral_of_not_finite (.float trivial) hfinite] at hread
  exact ⟨load_referenceText, hvalue, hy, Node.getValue_of_not_string hx rfl, hread⟩

end Config

end ConfigTree
