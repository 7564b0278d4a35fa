import ConfigTree.Proofs.Reference.Expand
import ConfigTree.Proofs.Text.Pieces
import ConfigTree.Proofs.Tree.Export
import ConfigTree.Proofs.Value.Literal

set_option relaxedAutoImplicit false
set_option autoImplicit false

/-!
# The ways along a path

A dotted path leads through the tree of a configuration, through its exports, and, if it names an
option in full, from the top of the tree to the text of a reference. All these ways lead to the same
place, if the segments of the path are normalized for the exports.

## Main definitions

* `ConfigTree.Config.normalPath` — a path with its segments normalized.
* `ConfigTree.Entry.exported` — the exported form of an entry, with values as they are stored.
* `ConfigTree.Treatment.Regular` — texts are not stored as mappings, and spellings of keys do not
  matter.

## Main results

* `ConfigTree.Config.lookupRaw_eq_ok_iff` — where a look-up leads.
* `ConfigTree.Options.regular_treatment` — the treatments that options ask for are regular.
* `ConfigTree.Config.lookups_agree` — the look-ups, the exports and the references agree.

## Implementation notes

A look-up passes the last segment on as it is spelled, while an export reads the normalized key. What
the two read can differ for a treatment that looks at the spelling; errors about references do, but
no value does.
-/

namespace ConfigTree

/-! ## Segments -/

namespace Config

/-- The path with each of its segments normalized. -/
def normalPath (path : String) : String :=
  Text.dotted ((Text.segments path).map normalizeKey)

/-- The segments of a normal path are the normalized segments of the path. -/
lemma segments_normalPath (path : String) :
    Text.segments (normalPath path) = (Text.segments path).map normalizeKey := by
  refine Text.segments_dotted ?_ (by simpa using Text.segments_ne_nil path)
  intro part hpart
  obtain ⟨segment, hsegment, rfl⟩ := List.mem_map.mp hpart
  exact period_not_mem_normalizeKey (Text.period_not_mem_of_mem_segments hsegment)

/-- The segments of a path are those that lead to a node, and then the last one. -/
lemma segments_eq (path : String) :
    Text.segments path = parentSegments path ++ [lastSegment path] := by
  have hne := Text.segments_ne_nil path
  rw [parentSegments, lastSegment, List.getLastD_eq_getLast?, List.getLast?_eq_getLast_of_ne_nil hne,
    Option.getD_some, List.dropLast_append_getLast hne]

/-- Only the empty path has an empty normal form. -/
lemma normalPath_eq_empty_iff {path : String} : normalPath path = "" ↔ path = "" := by
  constructor
  · intro h
    have hsegments := segments_normalPath path
    rw [h] at hsegments
    have hone : (Text.segments path).map normalizeKey = [""] := hsegments.symm
    obtain ⟨segment, hsegment, hempty⟩ := List.map_eq_singleton_iff.mp hone
    rw [← Text.dotted_segments path, hsegment, normalizeKey_eq_empty_iff.mp hempty]
    rfl
  · rintro rfl
    rfl

/-- A path that is not empty leads into a value along the normalized keys of its segments. -/
lemma getPath_normalPath {value found : Value} {path : String} (hpath : path ≠ "") :
    value.getPath (normalPath path) = .ok found ↔
      value.walk? ((parentSegments path ++ [lastSegment path]).map normalizeKey) = some found := by
  rw [Value.getPath, if_neg (normalPath_eq_empty_iff.not.mpr hpath), segments_normalPath, segments_eq]
  cases value.walk? ((parentSegments path ++ [lastSegment path]).map normalizeKey) <;> simp

/-! ## Where a look-up leads -/

variable {config : Config} {path : String} {entry : Entry} {value : Value}

/-- What happens at the end of a path happens at the node that its first segments lead to. -/
lemma bind_parentOf_eq_ok_iff {α : Type} {next : Node × String → Except Error α} {a : α} :
    config.parentOf path >>= next = .ok a ↔
      ∃ target, config.tree.nodes.Leads config.tree.root (parentSegments path) target ∧
        next (⟨config.tree, target⟩, lastSegment path) = .ok a := by
  rw [bind_eq_ok_iff, parentOf]
  simp only [map_eq_ok_iff]
  constructor
  · rintro ⟨_, ⟨⟨tree, target⟩, hwalk, rfl⟩, h⟩
    obtain ⟨htree, hlead⟩ := Node.walk_eq_ok_iff.mp hwalk
    obtain rfl : tree = config.tree := htree
    exact ⟨target, hlead, h⟩
  · rintro ⟨target, hlead, h⟩
    exact ⟨_, ⟨⟨config.tree, target⟩, Node.walk_eq_ok_iff.mpr ⟨rfl, hlead⟩, rfl⟩, h⟩

/-- **Where a look-up leads**: the first segments to a node, and the last one to what is stored. -/
lemma lookupRaw_eq_ok_iff (hpath : path ≠ "") :
    config.lookupRaw path = .ok entry ↔
      ∃ target slot, config.tree.nodes.Leads config.tree.root (parentSegments path) target ∧
        config.tree.nodes.slot? target (lastSegment path) = some slot ∧
        config.tree.entry slot = entry := by
  rw [lookupRaw, if_neg hpath, bind_parentOf_eq_ok_iff]
  refine exists_congr fun target => ?_
  simp only [Node.getRaw?]
  cases config.tree.nodes.slot? target (lastSegment path) <;> simp

/-- The first segments lead a look-up to a node, and the last one is read there. -/
lemma lookup_eq_ok_iff (hpath : path ≠ "") :
    config.lookup path = .ok entry ↔
      ∃ target, config.tree.nodes.Leads config.tree.root (parentSegments path) target ∧
        (Node.mk config.tree target).get (lastSegment path) = .ok entry := by
  rw [lookup, if_neg hpath, bind_parentOf_eq_ok_iff]

/-- They do the same for a look-up of a value, also if the path is empty. -/
lemma lookupValue_eq_ok_iff :
    config.lookupValue path = .ok value ↔
      ∃ target, config.tree.nodes.Leads config.tree.root (parentSegments path) target ∧
        (Node.mk config.tree target).getValue (lastSegment path) = .ok value := by
  rw [lookupValue, bind_parentOf_eq_ok_iff]

end Config

/-! ## One key -/

/-- A key reads as a node exactly if a node is stored under it. -/
lemma Node.get_eq_node_iff {node child : Node} {key : String} :
    node.get key = .ok (.node child) ↔ node.getRaw? key = some (.node child) := by
  rw [Node.get]
  cases node.getRaw? key with
  | none => simp
  | some entry =>
    cases entry with
    | node id => simp
    | value value =>
      cases value with
      | string raw =>
        by_cases hlevel : node.level = .options
        · cases hread : node.resolve key raw <;> simp [hlevel, hread, Except.map]
        · simp [hlevel]
      | _ => simp

/-- A value that a key reads as is what is read of a stored value. -/
lemma Node.get_eq_value_iff {node : Node} {key : String} {value : Value} :
    node.get key = .ok (.value value) ↔ node.getValue key = .ok value := by
  rw [Node.getValue]
  cases node.get key with
  | error e => simp
  | ok entry => cases entry <;> simp

/-- What reads as a value is a stored value. -/
lemma Node.exists_slot_of_getValue {node : Node} {key : String} {value : Value}
    (h : node.getValue key = .ok value) :
    ∃ raw, node.tree.nodes.slot? node.id key = some (.value raw) := by
  rw [← get_eq_value_iff, get, getRaw?] at h
  cases hslot : node.tree.nodes.slot? node.id key with
  | none => simp [hslot] at h
  | some slot =>
    cases slot with
    | node child => simp [hslot, Tree.entry] at h
    | value raw => exact ⟨raw, rfl⟩

/-- The treatment stores no text and no other value as a mapping, and what it reads does not depend on
how a key is spelled. -/
structure Treatment.Regular (treatment : Treatment) : Prop where
  /-- A value that is no mapping is not stored as one. -/
  store_leaf : ∀ value : Value, value.asMapping? = none →
    (treatment.store value).asMapping? = none
  /-- A text reads the same under the normalized key. -/
  read_normalizeKey : ∀ arena id key raw value, treatment.read arena id key raw = .ok value →
    treatment.read arena id (normalizeKey key) raw = .ok value

/-- A value without mappings is no mapping. -/
lemma Value.Plain.asMapping?_eq_none {number : Binary64 → Prop} {value : Value}
    (h : value.Plain number) : value.asMapping? = none := by
  cases h <;> rfl

/-- A name that denotes the path of an option has its three keys as segments. -/
lemma OptionPath.segments_eq_of_parse? {name : String} {target : OptionPath}
    (h : parse? name = some target) :
    Text.segments name = [target.sectionName, target.subsectionName, target.optionName] := by
  rw [parse?] at h
  unfold ofList? at h
  split at h
  · rename_i hsegments
    obtain rfl := Option.some.inj h
    exact hsegments
  · simp at h

/-- Whether a key completes a full path depends on the keys before it alone. -/
lemma OptionPath.exists_ofList?_concat {keys : List String} {key : String} {path : OptionPath}
    (h : ofList? (keys ++ [key]) = some path) (key' : String) :
    ∃ path', ofList? (keys ++ [key']) = some path' := by
  rcases keys with _ | ⟨first, _ | ⟨second, _ | ⟨third, more⟩⟩⟩
  · simp [ofList?] at h
  · simp [ofList?] at h
  · exact ⟨⟨first, second, key'⟩, rfl⟩
  · cases more <;> simp [ofList?] at h

/-- **A text reads the same under every key** of its node, since the place of a text plays no part in
its substitution. -/
lemma Options.read_of_key {options : Options} {arena : Arena} {id : ℕ} {key raw : String}
    {value : Value} (h : options.read arena id key raw = .ok value) (key' : String) :
    options.read arena id key' raw = .ok value := by
  simp only [read, Arena.fullKey] at h ⊢
  split at h
  · rename_i hsubstitutes
    rw [if_pos hsubstitutes]
    split at h
    · rename_i origin horigin
      obtain ⟨origin', horigin'⟩ := OptionPath.exists_ofList?_concat horigin key'
      obtain ⟨text, htext, hvalue⟩ := map_eq_ok_iff.mp h
      simp only [horigin', Reference.substitute_of_origin htext origin', Except.map, hvalue]
    · simp at h
  · rename_i hsubstitutes
    rw [if_neg hsubstitutes]
    exact h

/-- **The treatments that options ask for** are regular. -/
lemma Options.regular_treatment (options : Options) : options.treatment.Regular where
  store_leaf value hvalue := by
    cases value with
    | string text =>
      simp only [treatment, store, denote]
      split
      · rfl
      · split
        · exact (Value.plain_infer text).asMapping?_eq_none
        · rfl
    | _ => exact hvalue
  read_normalizeKey _ _ key _ _ h := Options.read_of_key h (normalizeKey key)

/-- Two spellings of a key read as the same value, if texts do under both. -/
lemma Node.getValue_congr {node : Node} {key key' : String} {value : Value}
    (hkeys : normalizeKey key' = normalizeKey key)
    (hresolve : ∀ raw value, node.resolve key raw = .ok value → node.resolve key' raw = .ok value)
    (h : node.getValue key = .ok value) : node.getValue key' = .ok value := by
  have hraw : node.getRaw? key' = node.getRaw? key := by
    rw [getRaw?, getRaw?, Arena.slot?, hkeys, Arena.slot?]
  rw [← get_eq_value_iff] at h ⊢
  rw [get] at h ⊢
  rw [hraw]
  split at h
  · rename_i raw hkey
    split at h
    · rename_i hlevel
      rw [if_pos hlevel]
      obtain ⟨found, hfound, hvalue⟩ := map_eq_ok_iff.mp h
      obtain rfl := Entry.value.inj hvalue
      rw [hresolve _ _ hfound]
      rfl
    · rename_i hlevel
      rw [if_neg hlevel]
      exact h
  · rename_i entry hentry hkey
    exact h
  · simp at h

/-- What a key reads as, the normalized key reads as, too. -/
lemma Node.getValue_normalizeKey {node : Node} {key : String} {value : Value}
    (hregular : node.tree.treatment.Regular) (h : node.getValue key = .ok value) :
    node.getValue (normalizeKey key) = .ok value :=
  getValue_congr (normalizeKey_normalizeKey key)
    (fun _ _ => hregular.read_normalizeKey _ _ _ _ _) h

/-! ## The agreement of the ways -/

/-- The exported form of an entry, with values as they are stored. -/
def Entry.exported : Entry → Except Error Value
  | .node child => child.toValue false
  | .value raw => .ok raw

namespace Config

variable {treatment : Treatment} {depth : ℕ} {mapping : Mapping} {config : Config} {path : String}
  {stored : Value}

/-- Along a path, an export holds what is exported for the entry that a look-up finds. -/
lemma getPath_of_lookupRaw (h : config.tree.Represents treatment depth mapping)
    (hstored : config.toValue false = .ok stored) {entry : Entry}
    (hlookup : config.lookupRaw path = .ok entry) :
    ∃ value, stored.getPath (normalPath path) = .ok value ∧ entry.exported = .ok value := by
  by_cases hpath : path = ""
  · subst hpath
    obtain rfl : .node config.root = entry := by simpa [lookupRaw] using hlookup
    exact ⟨stored, rfl, hstored⟩
  · obtain ⟨target, slot, hlead, hslot, rfl⟩ := (lookupRaw_eq_ok_iff hpath).mp hlookup
    obtain ⟨inner, hinner, hwalk⟩ := Tree.walk?_of_leads h.descends hlead hstored
    obtain ⟨value, hvalue, hlast⟩ := Tree.walk?_cons h.descends hinner hslot
    refine ⟨value, (getPath_normalPath hpath).mpr ?_, ?_⟩
    · rw [List.map_append, hwalk]
      exact hlast []
    · cases slot with
      | node child => exact hvalue
      | value raw => exact hvalue

/-- A path that leads into an export leads a look-up to an entry. -/
lemma exists_lookupRaw_of_getPath (h : config.tree.Represents treatment depth mapping)
    (hregular : treatment.Regular) (hstored : config.toValue false = .ok stored) {value : Value}
    (hvalue : stored.getPath (normalPath path) = .ok value) :
    ∃ entry, config.lookupRaw path = .ok entry := by
  by_cases hpath : path = ""
  · subst hpath
    exact ⟨_, rfl⟩
  · have hleaves : ∀ id key raw value,
        config.tree.nodes.slot? id key = some (.value raw) →
        config.tree.exportSlot false id (normalizeKey key) (.value raw) = .ok value →
        value.asMapping? = none := by
      intro id key raw value hslot hexport
      obtain ⟨_, _, _, leaf, -, -, -, -, hleaf, rfl⟩ := h.exists_leaf hslot
      obtain rfl : treatment.store leaf = value := Except.ok.inj hexport
      exact hregular.store_leaf leaf hleaf
    obtain ⟨target, slot, hlead, hslot⟩ := Tree.exists_of_walk? h.descends hleaves hstored
      ((getPath_normalPath hpath).mp hvalue)
    exact ⟨_, (lookupRaw_eq_ok_iff hpath).mpr ⟨target, slot, hlead, hslot, rfl⟩⟩

/-- A look-up finds the same nodes, whether values are read or not. -/
lemma lookup_eq_node_iff {node : Node} :
    config.lookup path = .ok (.node node) ↔ config.lookupRaw path = .ok (.node node) := by
  by_cases hpath : path = ""
  · simp [lookup, lookupRaw, hpath]
  · rw [lookup_eq_ok_iff hpath, lookupRaw_eq_ok_iff hpath]
    simp only [Node.get_eq_node_iff, Node.getRaw?, Option.map_eq_some_iff]
    constructor
    · rintro ⟨target, hlead, slot, hslot⟩
      exact ⟨target, slot, hlead, hslot⟩
    · rintro ⟨target, slot, hlead, hslot⟩
      exact ⟨target, hlead, slot, hslot⟩

/-- Along a path, an export of the values as they read holds the value that a look-up reads. -/
lemma getPath_of_lookup (h : config.tree.Represents treatment depth mapping)
    (hregular : treatment.Regular) {exported value : Value}
    (hexport : config.toValue true = .ok exported)
    (hlookup : config.lookup path = .ok (.value value)) :
    exported.getPath (normalPath path) = .ok value := by
  have hpath : path ≠ "" := by
    rintro rfl
    simp [lookup] at hlookup
  obtain ⟨target, hlead, hget⟩ := (lookup_eq_ok_iff hpath).mp hlookup
  have hread := Node.get_eq_value_iff.mp hget
  obtain ⟨inner, hinner, hwalk⟩ := Tree.walk?_of_leads h.descends hlead hexport
  obtain ⟨raw, hslot⟩ := Node.exists_slot_of_getValue hread
  obtain ⟨found, hfound, hlast⟩ := Tree.walk?_cons h.descends hinner hslot
  have hread' := Node.getValue_normalizeKey (by rw [h.treatment_eq]; exact hregular) hread
  obtain rfl : value = found := Except.ok.inj (hread'.symm.trans hfound)
  rw [getPath_normalPath hpath, List.map_append, hwalk]
  exact hlast []

/-- The text of a reference finds an option exactly if a look-up along its path does. -/
lemma stored?_eq_some_iff {target : OptionPath} (htarget : OptionPath.parse? path = some target)
    {value : Value} :
    config.root.stored? target = some value ↔ config.lookupRaw path = .ok (.value value) := by
  have hsegments := OptionPath.segments_eq_of_parse? htarget
  have hpath : path ≠ "" := by
    rintro rfl
    simp [Text.segments, Text.pieces] at hsegments
  have hparents : parentSegments path = [target.sectionName, target.subsectionName] := by
    rw [parentSegments, hsegments]
    rfl
  have hlast : lastSegment path = target.optionName := by
    rw [lastSegment, hsegments]
    rfl
  rw [lookupRaw_eq_ok_iff hpath, hparents, hlast]
  refine Arena.stored?_eq_some_iff.trans ⟨?_, ?_⟩
  · rintro ⟨id, hlead, hslot⟩
    exact ⟨id, _, hlead, hslot, rfl⟩
  · rintro ⟨id, slot, hlead, hslot, hentry⟩
    cases slot with
    | node child => simp [Tree.entry] at hentry
    | value raw =>
      obtain rfl := Entry.value.inj hentry
      exact ⟨id, hlead, hslot⟩

/-- **The ways along a path** agree in every configuration whose tree was built with a regular
treatment, as all treatments are that options ask for, and whatever options the configuration reports.
A look-up of the stored entry succeeds exactly if the normalized path leads into the export of the
stored values, and what it finds there is the export of the entry. A look-up finds the same nodes if
values are read. If all values can be read, their export holds along the normalized path the value
that a look-up reads. A path of three segments names an option, and the text of a reference finds the
value that a look-up of the stored entry finds.

**Proof sketch.** All these ways go along the same keys of the tree (`Arena.Leads`), and an export has
the keys of the tree in normalized form (`Tree.walk?_of_leads`, `Tree.exists_of_walk?`). -/
theorem lookups_agree :
    (∀ options : Options, options.treatment.Regular) ∧
    ∀ (treatment : Treatment) (mapping : Mapping) (label : String) (depth : ℕ) (config : Config),
      treatment.Regular → Tree.build treatment mapping label depth = .ok config.tree →
      ∀ path : String,
        (∃ stored, config.toValue false = .ok stored ∧
          ((∃ entry, config.lookupRaw path = .ok entry) ↔
            ∃ value, stored.getPath (normalPath path) = .ok value) ∧
          ∀ entry, config.lookupRaw path = .ok entry →
            ∃ value, stored.getPath (normalPath path) = .ok value ∧ entry.exported = .ok value) ∧
        (∀ node, config.lookup path = .ok (.node node) ↔
          config.lookupRaw path = .ok (.node node)) ∧
        (∀ exported value, config.toValue true = .ok exported →
          config.lookup path = .ok (.value value) →
          exported.getPath (normalPath path) = .ok value) ∧
        ((Text.segments path).length = 3 → ∃ target, OptionPath.parse? path = some target ∧
          ∀ id < config.tree.nodeCount, ∀ value,
            config.tree.nodes.stored? (config.tree.nodes.topOf id) target = some value ↔
              config.lookupRaw path = .ok (.value value)) := by
  refine ⟨Options.regular_treatment,
    fun treatment mapping label depth config hregular hbuild path => ?_⟩
  have h : config.tree.Represents treatment depth mapping := Tree.represents_of_build hbuild
  refine ⟨?_, fun node => lookup_eq_node_iff, fun exported value => getPath_of_lookup h hregular, ?_⟩
  · obtain ⟨stored, hstored⟩ := Tree.exists_exportFrom h.descends config.tree.root
    refine ⟨stored, hstored, ⟨?_, ?_⟩, fun entry => getPath_of_lookupRaw h hstored⟩
    · rintro ⟨entry, hlookup⟩
      obtain ⟨value, hvalue, -⟩ := getPath_of_lookupRaw h hstored hlookup
      exact ⟨value, hvalue⟩
    · rintro ⟨value, hvalue⟩
      exact exists_lookupRaw_of_getPath h hregular hstored hvalue
  · intro hthree
    obtain ⟨first, second, third, hsegments⟩ := List.length_eq_three.mp hthree
    have htarget : OptionPath.parse? path = some ⟨first, second, third⟩ := by
      rw [OptionPath.parse?, hsegments]
      rfl
    refine ⟨_, htarget, fun id hid value => ?_⟩
    rw [h.topOf_eq (h.le_root hid)]
    exact stored?_eq_some_iff htarget

/-- A path through an option that is spelled in its own way, and its normal form. -/
theorem lookups_agree_pair :
    (Config.mk Tree.pair {}).lookupRaw "A.b.X" = .ok (.value .null) ∧
      ∃ stored, (Config.mk Tree.pair {}).toValue false = .ok stored ∧
        stored.getPath "a.b.x" = .ok .null := by
  have hlookup : (Config.mk Tree.pair {}).lookupRaw "A.b.X" = .ok (.value .null) := rfl
  have hpath : normalPath "A.b.X" = "a.b.x" := by decide
  have hregular : Tree.pair.treatment.Regular := lookups_agree.1 {}
  obtain ⟨⟨stored, hstored, -, hfound⟩, -⟩ :=
    lookups_agree.2 _ _ _ _ ⟨Tree.pair, {}⟩ hregular Tree.build_pair "A.b.X"
  obtain ⟨value, hvalue, hentry⟩ := hfound _ hlookup
  obtain rfl : .null = value := Except.ok.inj hentry
  rw [hpath] at hvalue
  exact ⟨hlookup, stored, hstored, hvalue⟩

end Config

end ConfigTree
