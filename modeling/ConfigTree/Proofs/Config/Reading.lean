import ConfigTree.Config.Source
import ConfigTree.Proofs.Config.Fallback

set_option relaxedAutoImplicit false
set_option autoImplicit false

/-!
# Reads of values and look-ups

A value can be asked for as it is, as an integer, as a number, as a truth value and as a text. All
of these reads start alike: they look up what stands under a key or along a path, give the error of
this look-up if it fails, refuse a node, and only then look at the type of the value.

So a read and a look-up of the same path address the same entry. The empty path is the exception. A
look-up takes it for the top of the configuration, while the reads of values take it for the empty
key at the top. A default can stand in there although the look-up finds an entry.

## Main definitions

* `ConfigTree.Reading` — what a value can be asked for as.
* `ConfigTree.Node.read`, `ConfigTree.Config.read` — the reads of a key and of a path.
* `ConfigTree.Node.readOr`, `ConfigTree.Config.readOr` — the same with a default.
* `ConfigTree.Reading.convert` — the step from a value to what is asked for.

## Main results

* `ConfigTree.Node.read_of_get_error`, `ConfigTree.Node.read_of_get_node` — a read fails where a
  look-up fails, and where it finds a node.
* `ConfigTree.Node.isMiss_read_of_get` — a read finds something where a look-up does.
* `ConfigTree.Config.read_follows_lookup` — reads and look-ups of paths.
-/

namespace ConfigTree

open Error (isMiss)

/-! ## The reads of a value -/

/-- What a value is asked for as. -/
inductive Reading : Type → Type where
  /-- As it is. -/
  | value : Reading Value
  /-- As an integer. -/
  | integer : Reading Int64
  /-- As a number. -/
  | number : Reading Binary64
  /-- As a truth value. -/
  | truth : Reading Bool
  /-- As a text. -/
  | text : Reading String

variable {α : Type}

/-- The value under a key, as what it is asked for. -/
def Node.read : Reading α → Node → String → Except Error α
  | .value => getValue
  | .integer => getInt
  | .number => getFloat
  | .truth => getBool
  | .text => getString

/-- The value under a key, as what it is asked for, or a default if the key is missing. -/
def Node.readOr : Reading α → Node → String → α → Except Error α
  | .value => getValueOr
  | .integer => getIntOr
  | .number => getFloatOr
  | .truth => getBoolOr
  | .text => getStringOr

/-- The value at a path, as what it is asked for. -/
def Config.read : Reading α → Config → String → Except Error α
  | .value => lookupValue
  | .integer => getInt
  | .number => getFloat
  | .truth => getBool
  | .text => getString

/-- The value at a path, as what it is asked for, or a default if the path is missing. -/
def Config.readOr : Reading α → Config → String → α → Except Error α
  | .value => lookupOr
  | .integer => getIntOr
  | .number => getFloatOr
  | .truth => getBoolOr
  | .text => getStringOr

/-- The value under a key of a node in the form that is asked for, if it has one. -/
def Reading.convert : Reading α → Node → String → Value → Except Error α
  | .value => fun _ _ value => .ok value
  | .integer => Node.toInt
  | .number => Node.toFloat
  | .truth => Node.toBool
  | .text => Node.toText

/-- A value that has not the form that is asked for is of the wrong type. -/
lemma Reading.kind_of_convert (reading : Reading α) {node : Node} {key : String} {value : Value}
    {e : Error} (h : reading.convert node key value = .error e) : e.kind = .typeCoercion := by
  cases reading with
  | value => cases h
  | integer => exact Node.kind_of_toInt h
  | number => exact Node.kind_of_toFloat h
  | truth => exact Node.kind_of_toBool h
  | text => exact Node.kind_of_toText h

/-! ## Reads of a key -/

namespace Node

variable {node child : Node} {key : String}

/-- **A read** takes the value under a key and converts it. -/
lemma read_eq (reading : Reading α) (node : Node) (key : String) :
    node.read reading key = node.getValue key >>= reading.convert node key := by
  cases reading with
  | value =>
    show node.getValue key = _
    cases node.getValue key <;> rfl
  | integer | number | truth | text => rfl

/-- A typed read of a key with a default is the read without it, with the default for what is
missing. -/
lemma readOr_eq (reading : Reading α) (node : Node) (key : String) (fallback : α) :
    node.readOr reading key fallback = Error.orDefault (node.read reading key) fallback := by
  cases reading <;> rfl

/-- A read fails where a look-up fails, and in the same way. -/
lemma read_of_get_error {e : Error} (h : node.get key = .error e) (reading : Reading α) :
    node.read reading key = .error e := by
  rw [read_eq, getValue, h]
  rfl

/-- No node is taken for a value. -/
lemma read_of_get_node (h : node.get key = .ok (.node child)) (reading : Reading α) :
    node.read reading key = .error (.typeCoercion (node.pathOf key) "value" "node") := by
  rw [read_eq, getValue, h]
  rfl

/-- If a key reads as a value, a typed read converts this value. -/
lemma read_of_get_value {value : Value} (h : node.get key = .ok (.value value))
    (reading : Reading α) : node.read reading key = reading.convert node key value := by
  rw [read_eq, getValue, h]
  rfl

/-- A read finds something where a look-up does, be it of the wrong type. -/
lemma isMiss_read_of_get {entry : Entry} (h : node.get key = .ok entry) (reading : Reading α) :
    isMiss (node.read reading key) = false := by
  cases entry with
  | node child =>
    rw [read_of_get_node h]
    rfl
  | value value =>
    rw [read_of_get_value h]
    exact Error.isMiss_of_typeCoercion fun _ => reading.kind_of_convert

end Node

/-! ## Reads of a path -/

namespace Config

variable {config : Config} {path : String}

/-- A typed read along a path is one of the last segment at the node that the others lead to. -/
lemma read_eq (reading : Reading α) (config : Config) (path : String) :
    config.read reading path =
      config.parentOf path >>= fun (node, key) => node.read reading key := by
  cases reading <;> rfl

/-- The same with a default, which stands in for what is missing on the way or at its end. -/
lemma readOr_eq (reading : Reading α) (config : Config) (path : String) (fallback : α) :
    config.readOr reading path fallback = Error.orDefault (config.read reading path) fallback := by
  cases reading <;> rfl

/-- What a look-up finds stands under the last segment of the path. -/
lemma exists_get_of_lookup (hpath : path ≠ "") {entry : Entry}
    (h : config.lookup path = .ok entry) :
    ∃ node key, config.parentOf path = .ok (node, key) ∧ node.get key = .ok entry := by
  rw [lookup, if_neg hpath] at h
  obtain ⟨⟨node, key⟩, hparent, hget⟩ := bind_eq_ok_iff.mp h
  exact ⟨node, key, hparent, hget⟩

/-- If the first segments lead to a node, the last one is to be read there. -/
lemma parentOf_of_walk {node : Node} (hwalk : config.root.walk (parentSegments path) = .ok node) :
    config.parentOf path = .ok (node, lastSegment path) := by
  rw [parentOf, hwalk]
  rfl

/-- A typed read along a path is one at the node and the key that the path leads to. -/
lemma read_of_parentOf {node : Node} {key : String} (h : config.parentOf path = .ok (node, key))
    (reading : Reading α) : config.read reading path = node.read reading key := by
  rw [read_eq, h]
  rfl

/-- A read of a path fails where a look-up fails, and in the same way. -/
lemma read_of_lookup_error (hpath : path ≠ "") {e : Error} (h : config.lookup path = .error e)
    (reading : Reading α) : config.read reading path = .error e := by
  rw [lookup, if_neg hpath] at h
  rw [read_eq]
  cases hparent : config.parentOf path with
  | error e' =>
    rw [hparent] at h
    obtain rfl := Except.error.inj h
    rfl
  | ok position =>
    rw [hparent] at h
    exact Node.read_of_get_error h reading

/-- **Reads follow look-ups** in every configuration, along every path but the empty one. A read of
the value succeeds exactly if the look-up finds a value, with this value. Where the look-up finds a
node, every read fails for its type. Where it finds anything at all, no read gives its default.
Where it fails, every read fails with the same error. At the empty path the look-up finds the top of
the configuration, but each read is that of the empty key at the top, and each default is given if
there is no such key.

**Proof sketch.** Both go to the node of the first segments, and a read of a key follows the look-up
of the key there (`Node.read_of_get_error`, `Node.read_of_get_node`, `Node.isMiss_read_of_get`). -/
theorem read_follows_lookup (config : Config) :
    (∀ path, path ≠ "" →
      (∀ value, config.lookupValue path = .ok value ↔ config.lookup path = .ok (.value value)) ∧
      (∀ child, config.lookup path = .ok (.node child) →
        ∃ position, ∀ (α : Type) (reading : Reading α),
          config.read reading path = .error (.typeCoercion position "value" "node")) ∧
      (∀ entry, config.lookup path = .ok entry →
        ∀ (α : Type) (reading : Reading α) (fallback : α),
          config.readOr reading path fallback = config.read reading path) ∧
      (∀ e, config.lookup path = .error e →
        ∀ (α : Type) (reading : Reading α), config.read reading path = .error e)) ∧
    config.lookup "" = .ok (.node config.root) ∧
    (∀ (α : Type) (reading : Reading α), config.read reading "" = config.root.read reading "") ∧
    ("" ∉ config.root.keys → ∀ (α : Type) (reading : Reading α) (fallback : α),
      config.readOr reading "" fallback = .ok fallback) := by
  have hroot (α : Type) (reading : Reading α) :
      config.read reading "" = config.root.read reading "" := read_of_parentOf rfl reading
  refine ⟨fun path hpath => ⟨fun value => ?_, fun child h => ?_,
    fun entry h α reading fallback => ?_,
    fun e h α reading => read_of_lookup_error hpath h reading⟩, rfl, hroot,
    fun hkey α reading fallback => ?_⟩
  · rw [lookupValue_eq_ok_iff, lookup_eq_ok_iff hpath]
    simp only [Node.get_eq_value_iff]
  · obtain ⟨node, key, hparent, hget⟩ := exists_get_of_lookup hpath h
    refine ⟨node.pathOf key, fun α reading => ?_⟩
    rw [read_of_parentOf hparent, Node.read_of_get_node hget]
  · obtain ⟨node, key, hparent, hget⟩ := exists_get_of_lookup hpath h
    rw [readOr_eq, read_of_parentOf hparent, Error.orDefault_eq,
      Node.isMiss_read_of_get hget reading]
    rfl
  · have hmissing : config.root.getRaw? "" = none := by
      have hcontains : config.root.contains "" = false := Node.contains_eq_false_iff.mpr hkey
      simpa [Node.contains] using hcontains
    have hget : config.root.get "" = .error (config.root.notFound "") := by
      rw [Node.get, hmissing]
    rw [readOr_eq, hroot, Node.read_of_get_error hget, Error.orDefault_eq, Error.isMiss_error,
      Node.isNotFound_notFound]
    rfl

/-- The configuration of an INI text with one section and no options. -/
def sectionConfig : Config :=
  ⟨⟨#[⟨.options, [], some (some 1)⟩, ⟨.subsections, [("main", .node 0)], some (some 2)⟩,
    ⟨.sections, [("a", .node 1)], some none⟩], 2, ({} : Options).treatment⟩, {}⟩

/-- A path to the subsection: the look-up finds it, and a read with a default fails for its type. -/
theorem read_follows_lookup_subsection :
    sectionConfig.lookup "a.main" = .ok (.node ⟨sectionConfig.tree, 0⟩) ∧
      ∃ e, e.kind = .typeCoercion ∧ sectionConfig.getInt "a.main" = .error e ∧
        sectionConfig.getIntOr "a.main" 7 = .error e := by
  have hlookup : sectionConfig.lookup "a.main" = .ok (.node ⟨sectionConfig.tree, 0⟩) := rfl
  obtain ⟨-, hnode, hdefault, -⟩ := (read_follows_lookup sectionConfig).1 "a.main" (by decide)
  obtain ⟨position, hread⟩ := hnode _ hlookup
  have hint : sectionConfig.getInt "a.main" = .error (.typeCoercion position "value" "node") :=
    hread Int64 .integer
  have hor : sectionConfig.getIntOr "a.main" 7 = sectionConfig.getInt "a.main" :=
    hdefault _ hlookup Int64 .integer 7
  exact ⟨hlookup, _, rfl, hint, hor.trans hint⟩

/-- The empty path, where a look-up finds the top, but a read of the value reports a missing section
and so gives its default. -/
theorem lookupOr_empty_path :
    Source.load {} (.text .ini "[a]\n") = .ok sectionConfig ∧
      sectionConfig.lookup "" = .ok (.node sectionConfig.root) ∧
      sectionConfig.lookupValue "" = .error (.noSection "") ∧
      sectionConfig.lookupOr "" (.bool true) = .ok (.bool true) :=
  ⟨rfl, rfl, rfl, rfl⟩

end Config

end ConfigTree
