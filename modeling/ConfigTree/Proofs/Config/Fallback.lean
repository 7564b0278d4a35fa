import ConfigTree.Proofs.Config.Path

set_option relaxedAutoImplicit false
set_option autoImplicit false

/-!
# Defaults

Each read of a path or of a key has a form with a default. The default stands in for a missing entry
and for nothing else: not for a reference that cannot be substituted, not for a value of another
type, not for a path that goes on below a value or ends at a node.

## Main definitions

* `ConfigTree.Error.isMiss` — whether a result is a look-up that found nothing.
* `ConfigTree.Treatment.NeverMisses` — no failure to read a text is reported as a missing key.
* `ConfigTree.Config.Missing`, `ConfigTree.Config.Misused` — paths that lead nowhere, and paths that
  take a value for a node or a node for a value.
* `ConfigTree.Error.DefaultsOnly` — a default is given for what is missing, and for nothing else.
* `ConfigTree.Config.DefaultsAlong`, `ConfigTree.Node.DefaultsAt` — this for all reads of a path and of
  a key.

## Main results

* `ConfigTree.Options.neverMisses_treatment` — the treatments that options ask for never miss.
* `ConfigTree.Node.isMiss_walk_iff` — the walks that find nothing.
* `ConfigTree.Config.isMiss_bind_parentOf_iff` — the reads along a path that find nothing.
* `ConfigTree.Tree.defaults_for_missing_only` — a default is used exactly for what is missing.
-/

namespace ConfigTree

/-! ## Results that found nothing -/

namespace Error

variable {α β : Type} {result : Except Error α}

/-- Whether a result is a look-up that found nothing. -/
def isMiss : Except Error α → Bool
  | .ok _ => false
  | .error e => e.isNotFound

/-- A success is no look-up that found nothing. -/
@[simp] lemma isMiss_ok (a : α) : isMiss (.ok a : Except Error α) = false := rfl

/-- Of the errors, those about missing keys are look-ups that found nothing. -/
@[simp] lemma isMiss_error (e : Error) : isMiss (.error e : Except Error α) = e.isNotFound := rfl

/-- What becomes of a success plays no part. -/
@[simp] lemma isMiss_map (f : α → β) : isMiss (result.map f) = isMiss result := by
  cases result <;> rfl

/-- A value of another type is not a missing one. -/
lemma isMiss_of_typeCoercion (h : ∀ e, result = .error e → e.kind = .typeCoercion) :
    isMiss result = false := by
  cases result with
  | ok a => rfl
  | error e => rw [isMiss_error, Error.isNotFound, h e rfl]

/-- A step after another one finds nothing if either of the two does. -/
lemma isMiss_bind_iff {next : α → Except Error β} :
    isMiss (result >>= next) = true ↔
      isMiss result = true ∨ ∃ a, result = .ok a ∧ isMiss (next a) = true := by
  cases result <;> simp [bind, Except.bind]

/-- A step that never misses does not matter. -/
lemma isMiss_bind {next : α → Except Error β} (hnext : ∀ a, isMiss (next a) = false) :
    isMiss (result >>= next) = isMiss result := by
  cases result <;> simp [bind, Except.bind, hnext]

/-- A default stands in for a look-up that found nothing; every other result stays. -/
lemma orDefault_eq (result : Except Error α) (fallback : α) :
    orDefault result fallback = if isMiss result then .ok fallback else result := by
  cases result <;> rfl

/-- An error about a reference is no error about a missing key. -/
lemma isNotFound_of_isInterpolation {e : Error} (h : e.isInterpolation = true) :
    e.isNotFound = false := by
  unfold isInterpolation at h
  unfold isNotFound
  split at h <;> simp_all

end Error

open Error (isMiss isMiss_ok isMiss_error)

/-! ## Reading a text -/

namespace Reference

variable {lookup : OptionPath → Option Value} {origin : OptionPath}

/-- A machine stops with an error only because of a reference, and never because of the place of the
text. -/
lemma Machine.exists_fault_of_step {machine : Machine} {e : Error}
    (h : machine.step lookup origin = .stop (.error e)) :
    ∃ fault, e.kind = .interpolation fault ∧ ∀ level, fault ≠ .misplaced level := by
  obtain ⟨output, trail, stack⟩ := machine
  cases stack with
  | nil => cases h
  | cons frame waiting =>
    obtain ⟨turn, hturn⟩ := frame.exists_turns lookup origin
    rw [hturn.step_eq] at h
    cases hturn with
    | beyond | malformed | nowhere | missing =>
      rw [← Except.error.inj (Progress.stop.inj h)]
      exact ⟨_, rfl, fun _ => Fault.noConfusion⟩
    | plain | done | follow => cases h

/-- **A substitution fails** only because of a reference, and never because of the place of the text.

**Proof sketch.** Induction along the run of the machine; only its last move can fail. -/
lemma exists_fault_of_substitute {raw : String} {e : Error}
    (h : substitute lookup origin raw = .error e) :
    ∃ fault, e.kind = .interpolation fault ∧ ∀ level, fault ≠ .misplaced level := by
  have hrun := map_eq_error_iff.mp h
  generalize start origin raw = machine at hrun
  induction machine using Machine.run.induct lookup origin with
  | case1 machine next hstep ih =>
    rw [Machine.run_of_step_next hstep] at hrun
    exact ih hrun
  | case2 machine result hstep =>
    rw [Machine.run_of_step_stop hstep] at hrun
    obtain rfl : result = .error e := hrun
    exact machine.exists_fault_of_step hstep

/-- The error of a failed substitution is one about a reference. -/
lemma isInterpolation_of_substitute {raw : String} {e : Error}
    (h : substitute lookup origin raw = .error e) : e.isInterpolation = true := by
  obtain ⟨fault, hkind, -⟩ := exists_fault_of_substitute h
  rw [Error.isInterpolation, hkind]

end Reference

/-- No failure to read a text is reported as a missing key. -/
def Treatment.NeverMisses (treatment : Treatment) : Prop :=
  ∀ arena id key raw, isMiss (treatment.read arena id key raw) = false

/-- **The treatments that options ask for** report only errors about references. -/
lemma Options.neverMisses_treatment (options : Options) : options.treatment.NeverMisses := by
  intro arena id key raw
  simp only [treatment, read]
  split
  · split
    · rename_i origin _
      rw [Error.isMiss_map]
      cases hresult : Reference.substitute (arena.stored? (arena.topOf id)) origin raw with
      | ok text => rfl
      | error e =>
        exact Error.isNotFound_of_isInterpolation (Reference.isInterpolation_of_substitute hresult)
    · rfl
  · rfl

/-! ## One key -/

namespace Node

variable {node : Node} {key : String}

/-- A node lacks a key exactly if the normalized key is not one of its keys. -/
lemma contains_eq_false_iff : node.contains key = false ↔ normalizeKey key ∉ node.keys := by
  rw [← contains_iff, Bool.not_eq_true]

/-- The error about a missing key is one that a default may stand in for, at every level. -/
lemma isNotFound_notFound (node : Node) (key : String) : (node.notFound key).isNotFound = true := by
  unfold notFound
  split
  · rfl
  · rfl
  · split <;> rfl
  · rfl

/-- **A read of a key** finds nothing exactly if the node lacks the key. -/
lemma isMiss_get (h : node.tree.treatment.NeverMisses) (key : String) :
    isMiss (node.get key) = !node.contains key := by
  rw [get, contains]
  split
  · rename_i raw hkey
    rw [hkey]
    split
    · rw [Error.isMiss_map]
      exact h _ _ _ _
    · rfl
  · rename_i hkey
    rw [hkey]
    rfl
  · rename_i hkey
    rw [hkey]
    exact node.isNotFound_notFound key

/-- So does a read of a node, since a value in its place is an error of another kind. -/
lemma isMiss_getNode (h : node.tree.treatment.NeverMisses) (key : String) :
    isMiss (node.getNode key) = !node.contains key := by
  rw [← isMiss_get h, getNode]
  cases node.get key with
  | error e => rfl
  | ok entry => cases entry <;> rfl

/-- So does a read of a value, since a node in its place is an error of another kind. -/
lemma isMiss_getValue (h : node.tree.treatment.NeverMisses) (key : String) :
    isMiss (node.getValue key) = !node.contains key := by
  rw [← isMiss_get h, getValue]
  cases node.get key with
  | error e => rfl
  | ok entry => cases entry <;> rfl

/-- A value that stands for no integer is an error about its type. -/
lemma kind_of_toInt {value : Value} {e : Error} (h : node.toInt key value = .error e) :
    e.kind = .typeCoercion := by
  simp only [toInt] at h
  split at h
  · cases h
  · split at h <;> cases h
    rfl
  · cases h
    rfl

/-- Hence the conversion to an integer never misses. -/
lemma isMiss_toInt (value : Value) : isMiss (node.toInt key value) = false :=
  Error.isMiss_of_typeCoercion fun _ => kind_of_toInt

/-- A value that stands for no number is an error about its type. -/
lemma kind_of_toFloat {value : Value} {e : Error} (h : node.toFloat key value = .error e) :
    e.kind = .typeCoercion := by
  simp only [toFloat] at h
  split at h
  · cases h
  · cases h
  · split at h <;> cases h
    rfl
  · cases h
    rfl

/-- Hence the conversion to a number never misses. -/
lemma isMiss_toFloat (value : Value) : isMiss (node.toFloat key value) = false :=
  Error.isMiss_of_typeCoercion fun _ => kind_of_toFloat

/-- A value that stands for no truth value is an error about its type. -/
lemma kind_of_toBool {value : Value} {e : Error} (h : node.toBool key value = .error e) :
    e.kind = .typeCoercion := by
  rw [toBool] at h
  split at h <;> cases h
  rfl

/-- Hence the conversion to a truth value never misses. -/
lemma isMiss_toBool (value : Value) : isMiss (node.toBool key value) = false :=
  Error.isMiss_of_typeCoercion fun _ => kind_of_toBool

/-- A value that is displayed as no text is an error about its type. -/
lemma kind_of_toText {value : Value} {e : Error} (h : node.toText key value = .error e) :
    e.kind = .typeCoercion := by
  simp only [toText] at h
  split at h <;> cases h
  rfl

/-- Hence the conversion to a text never misses. -/
lemma isMiss_toText (value : Value) : isMiss (node.toText key value) = false :=
  Error.isMiss_of_typeCoercion fun _ => kind_of_toText

/-- A key that holds a value cannot be read as a node. -/
lemma exists_getNode_eq_error (h : node.tree.treatment.NeverMisses) {raw : Value}
    (hkey : node.getRaw? key = some (.value raw)) :
    ∃ e, node.getNode key = .error e ∧ e.isNotFound = false := by
  cases hnode : node.getNode key with
  | error e =>
    have hmiss := isMiss_getNode h key
    rw [hnode, contains, hkey] at hmiss
    exact ⟨e, rfl, hmiss⟩
  | ok child =>
    rw [getRaw?_eq_value_iff, (getNode_eq_ok_iff.mp hnode).2] at hkey
    simp at hkey

/-- The read finds nothing exactly at a key that is missing, and it fails in another way at a key that
holds a node. -/
structure ReadsValues (tree : Tree) {α : Type} (read : Node → String → Except Error α) : Prop where
  /-- The read finds nothing exactly at a key that is missing. -/
  isMiss_eq : ∀ node key, node.tree = tree → isMiss (read node key) = !node.contains key
  /-- The read takes no node for a value. -/
  error_of_node : ∀ node key child, node.getRaw? key = some (.node child) →
    ∃ e, read node key = .error e ∧ e.isNotFound = false

/-- Reads of any value miss only missing keys, and they take no node for a value. -/
lemma readsValues_getValue {tree : Tree} (h : tree.treatment.NeverMisses) :
    ReadsValues tree getValue where
  isMiss_eq node key htree := isMiss_getValue (by rw [htree]; exact h) key
  error_of_node node key child hkey := by
    refine ⟨node.mismatch key "value" "node", ?_, rfl⟩
    simp only [getValue, get, hkey]

/-- A typed read goes on with the value; it fails if the value is not of its type. -/
lemma ReadsValues.bind {tree : Tree} {α β : Type} {read : Node → String → Except Error α}
    (h : ReadsValues tree read) {convert : Node → String → α → Except Error β}
    (hconvert : ∀ node key a, isMiss (convert node key a) = false) :
    ReadsValues tree fun node key => read node key >>= convert node key where
  isMiss_eq node key htree := by
    rw [Error.isMiss_bind (hconvert node key), h.isMiss_eq node key htree]
  error_of_node node key child hkey := by
    obtain ⟨e, he, hfound⟩ := h.error_of_node node key child hkey
    refine ⟨e, ?_, hfound⟩
    rw [he]
    rfl

/-! ## Walks -/

/-- **A walk finds nothing** exactly if some key of it is missing at the node that the keys before it
lead to.

**Proof sketch.** Induction on the keys; the walk goes on at the child under the first one. -/
lemma isMiss_walk_iff (h : node.tree.treatment.NeverMisses) {keys : List String} :
    isMiss (node.walk keys) = true ↔ ∃ before key after target, keys = before ++ key :: after ∧
      node.walk before = .ok target ∧ target.contains key = false := by
  induction keys generalizing node with
  | nil => simp [walk]
  | cons first rest ih =>
    rw [walk, Error.isMiss_bind_iff, isMiss_getNode h, Bool.not_eq_true']
    constructor
    · rintro (hmissing | ⟨child, hchild, hwalk⟩)
      · exact ⟨[], first, rest, node, rfl, rfl, hmissing⟩
      · have htree := (getNode_eq_ok_iff.mp hchild).1
        obtain ⟨before, key, after, target, rfl, hbefore, hmissing⟩ :=
          (ih (by rw [htree]; exact h)).mp hwalk
        refine ⟨first :: before, key, after, target, rfl, ?_, hmissing⟩
        rw [walk, hchild]
        exact hbefore
    · rintro ⟨before, key, after, target, hkeys, hbefore, hmissing⟩
      cases before with
      | nil =>
        obtain ⟨rfl, -⟩ : first = key ∧ rest = after := by simpa using hkeys
        obtain rfl := Except.ok.inj hbefore
        exact .inl hmissing
      | cons k before =>
        obtain ⟨rfl, rfl⟩ : first = k ∧ rest = before ++ key :: after := by simpa using hkeys
        obtain ⟨child, hchild, hwalk⟩ := bind_eq_ok_iff.mp hbefore
        have htree := (getNode_eq_ok_iff.mp hchild).1
        exact .inr ⟨child, hchild, (ih (by rw [htree]; exact h)).mpr
          ⟨before, key, after, target, rfl, hwalk, hmissing⟩⟩

/-- A walk over a key that does not read as a node fails as this read does. -/
lemma walk_of_getNode_error {before : List String} {target : Node} {e : Error}
    (hbefore : node.walk before = .ok target) (hkey : target.getNode key = .error e)
    (after : List String) : node.walk (before ++ key :: after) = .error e := by
  induction before generalizing node with
  | nil =>
    obtain rfl := Except.ok.inj hbefore
    rw [List.nil_append, walk, hkey]
    rfl
  | cons first before ih =>
    obtain ⟨child, hchild, hwalk⟩ := bind_eq_ok_iff.mp hbefore
    rw [List.cons_append, walk, hchild]
    exact ih hwalk

/-- A walk through a value fails, and not for lack of a key. -/
lemma exists_walk_eq_error (h : node.tree.treatment.NeverMisses) {before after : List String}
    {target : Node} {raw : Value} (hbefore : node.walk before = .ok target)
    (hkey : target.getRaw? key = some (.value raw)) :
    ∃ e, node.walk (before ++ key :: after) = .error e ∧ e.isNotFound = false := by
  have htree := (walk_eq_ok_iff.mp hbefore).1
  obtain ⟨e, he, hfound⟩ := exists_getNode_eq_error (by rw [htree]; exact h) hkey
  exact ⟨e, walk_of_getNode_error hbefore he after, hfound⟩

end Node

/-! ## Paths -/

namespace Config

variable {config : Config} {path : String} {α : Type}

/-- The path is missing: some of its segments lead to a node, and this node lacks the next one. -/
def Missing (config : Config) (path : String) : Prop :=
  ∃ before key after node, Text.segments path = before ++ key :: after ∧
    config.root.walk before = .ok node ∧ normalizeKey key ∉ node.keys

/-- The path is of no use for a value: it goes on below a value, or it ends at a node. -/
def Misused (config : Config) (path : String) : Prop :=
  ∃ before key after node, Text.segments path = before ++ key :: after ∧
    config.root.walk before = .ok node ∧
    ((after ≠ [] ∧ ∃ raw, node.getRaw? key = some (.value raw)) ∨
      (after = [] ∧ ∃ child, node.getRaw? key = some (.node child)))

/-- A segment of a path is the last one, or one of those that name nodes. -/
lemma parentSegments_of_segments {before after : List String} {key : String}
    (h : Text.segments path = before ++ key :: after) :
    (after = [] ∧ parentSegments path = before ∧ lastSegment path = key) ∨
      (after ≠ [] ∧ parentSegments path = before ++ key :: after.dropLast) := by
  rw [parentSegments, lastSegment, h]
  by_cases hafter : after = []
  · subst hafter
    exact .inl ⟨rfl, List.dropLast_concat, List.getLastD_concat⟩
  · refine .inr ⟨hafter, ?_⟩
    rw [List.dropLast_append_of_ne_nil (List.cons_ne_nil _ _), List.dropLast_cons_of_ne_nil hafter]

variable {read : Node → String → Except Error α}

/-- **A read along a path finds nothing** exactly if the path is missing.

**Proof sketch.** The first segment that is missing is one of those that name nodes
(`Node.isMiss_walk_iff`), or the last one. -/
lemma isMiss_bind_parentOf_iff (h : config.tree.treatment.NeverMisses)
    (hread : Node.ReadsValues config.tree read) :
    isMiss (config.parentOf path >>= fun (node, key) => read node key) = true ↔
      config.Missing path := by
  have htree {keys : List String} {node : Node} (hwalk : config.root.walk keys = .ok node) :
      node.tree = config.tree := (Node.walk_eq_ok_iff.mp hwalk).1
  rw [Error.isMiss_bind_iff, parentOf, Error.isMiss_map, Node.isMiss_walk_iff h]
  simp only [map_eq_ok_iff, Missing, ← Node.contains_eq_false_iff]
  constructor
  · rintro (⟨before, key, after, node, hparents, hwalk, hmissing⟩ | ⟨_, ⟨node, hwalk, rfl⟩, hmiss⟩)
    · refine ⟨before, key, after ++ [lastSegment path], node, ?_, hwalk, hmissing⟩
      rw [segments_eq, hparents, List.append_assoc, List.cons_append]
    · rw [hread.isMiss_eq _ _ (htree hwalk), Bool.not_eq_true'] at hmiss
      exact ⟨parentSegments path, lastSegment path, [], node, segments_eq path, hwalk, hmiss⟩
  · rintro ⟨before, key, after, node, hsegments, hwalk, hmissing⟩
    rcases parentSegments_of_segments hsegments with ⟨-, rfl, rfl⟩ | ⟨-, hparents⟩
    · refine .inr ⟨_, ⟨node, hwalk, rfl⟩, ?_⟩
      rw [hread.isMiss_eq _ _ (htree hwalk), hmissing]
      rfl
    · exact .inl ⟨before, key, after.dropLast, node, hparents, hwalk, hmissing⟩

/-- A read along a path that is of no use for a value fails, and not for lack of a key. -/
lemma exists_bind_parentOf_eq_error (h : config.tree.treatment.NeverMisses)
    (hread : Node.ReadsValues config.tree read) (hpath : config.Misused path) :
    ∃ e, (config.parentOf path >>= fun (node, key) => read node key) = .error e ∧
      e.isNotFound = false := by
  obtain ⟨before, key, after, node, hsegments, hwalk, hkey⟩ := hpath
  rcases parentSegments_of_segments hsegments with ⟨rfl, rfl, rfl⟩ | ⟨hafter, hparents⟩
  · obtain ⟨-, child, hchild⟩ := hkey.resolve_left fun h => h.1 rfl
    obtain ⟨e, he, hfound⟩ := hread.error_of_node _ _ _ hchild
    refine ⟨e, ?_, hfound⟩
    rw [parentOf, hwalk]
    exact he
  · obtain ⟨-, raw, hraw⟩ := hkey.resolve_right fun h => hafter h.1
    obtain ⟨e, he, hfound⟩ := Node.exists_walk_eq_error h hwalk hraw
    refine ⟨e, ?_, hfound⟩
    rw [parentOf, hparents, he]
    rfl

end Config

/-! ## Reads with a default -/

/-- The read with a default gives the default for what is missing, and otherwise what the read without
a default gives. What is misused is an error under every default, and so is every failure that is no
look-up that found nothing. -/
structure Error.DefaultsOnly {α : Type} (missing misused : Prop) (plain : Except Error α)
    (withDefault : α → Except Error α) : Prop where
  /-- What is missing gives the default. -/
  of_missing : missing → ∀ fallback, withDefault fallback = .ok fallback
  /-- For everything else the default plays no part. -/
  of_not_missing : ¬ missing → ∀ fallback, withDefault fallback = plain
  /-- What is misused gives an error, whatever the default is. -/
  of_misused : misused → ∃ e, plain = .error e ∧ ∀ fallback, withDefault fallback = .error e
  /-- A failed conversion stays, and so does a reference that cannot be substituted. -/
  of_error : ∀ e, plain = .error e → e.isNotFound = false →
    ∀ fallback, withDefault fallback = .error e

/-- A result that finds nothing exactly for what is missing, and that fails in another way for what
is misused, uses a default only for what is missing. -/
lemma Error.defaultsOnly_orDefault {α : Type} {missing misused : Prop} {plain : Except Error α}
    (hmissing : isMiss plain = true ↔ missing)
    (hmisused : misused → ∃ e, plain = .error e ∧ e.isNotFound = false) :
    DefaultsOnly missing misused plain (orDefault plain) where
  of_missing h fallback := by rw [orDefault_eq, if_pos (hmissing.mpr h)]
  of_not_missing h fallback := by rw [orDefault_eq, if_neg (hmissing.not.mpr h)]
  of_misused h := by
    obtain ⟨e, rfl, hfound⟩ := hmisused h
    refine ⟨e, rfl, fun fallback => ?_⟩
    rw [orDefault_eq, isMiss_error, hfound]
    rfl
  of_error e he hfound fallback := by
    rw [orDefault_eq, he, isMiss_error, hfound]
    rfl

open Error (DefaultsOnly)

/-- All reads of a value along a path use a default only if the path is missing. -/
structure Config.DefaultsAlong (config : Config) (path : String) : Prop where
  /-- Reads of any value. -/
  lookupOr : DefaultsOnly (config.Missing path) (config.Misused path) (config.lookupValue path)
    (config.lookupOr path)
  /-- Reads of an integer. -/
  getIntOr : DefaultsOnly (config.Missing path) (config.Misused path) (config.getInt path)
    (config.getIntOr path)
  /-- Reads of a number. -/
  getFloatOr : DefaultsOnly (config.Missing path) (config.Misused path) (config.getFloat path)
    (config.getFloatOr path)
  /-- Reads of a truth value. -/
  getBoolOr : DefaultsOnly (config.Missing path) (config.Misused path) (config.getBool path)
    (config.getBoolOr path)
  /-- Reads of a text. -/
  getStringOr : DefaultsOnly (config.Missing path) (config.Misused path) (config.getString path)
    (config.getStringOr path)

/-- All reads of a key use a default only if the key is missing. -/
structure Node.DefaultsAt (node : Node) (key : String) : Prop where
  /-- Reads of any entry, for which a node is as good as a value. -/
  getOr : DefaultsOnly (normalizeKey key ∉ node.keys) False (node.get key) (node.getOr key)
  /-- Reads of any value. -/
  getValueOr : DefaultsOnly (normalizeKey key ∉ node.keys)
    (∃ child, node.getRaw? key = some (.node child)) (node.getValue key) (node.getValueOr key)
  /-- Reads of an integer. -/
  getIntOr : DefaultsOnly (normalizeKey key ∉ node.keys)
    (∃ child, node.getRaw? key = some (.node child)) (node.getInt key) (node.getIntOr key)
  /-- Reads of a number. -/
  getFloatOr : DefaultsOnly (normalizeKey key ∉ node.keys)
    (∃ child, node.getRaw? key = some (.node child)) (node.getFloat key) (node.getFloatOr key)
  /-- Reads of a truth value. -/
  getBoolOr : DefaultsOnly (normalizeKey key ∉ node.keys)
    (∃ child, node.getRaw? key = some (.node child)) (node.getBool key) (node.getBoolOr key)
  /-- Reads of a text. -/
  getStringOr : DefaultsOnly (normalizeKey key ∉ node.keys)
    (∃ child, node.getRaw? key = some (.node child)) (node.getString key) (node.getStringOr key)

namespace Node.ReadsValues

variable {tree : Tree} {α : Type} {read : Node → String → Except Error α}

/-- A read of values uses a default along a path only if the path is missing. -/
lemma defaultsAlong (h : tree.treatment.NeverMisses) (hread : ReadsValues tree read)
    {config : Config} (hconfig : config.tree = tree) (path : String) :
    DefaultsOnly (config.Missing path) (config.Misused path)
      (config.parentOf path >>= fun (node, key) => read node key)
      (Error.orDefault (config.parentOf path >>= fun (node, key) => read node key)) := by
  subst hconfig
  exact Error.defaultsOnly_orDefault (Config.isMiss_bind_parentOf_iff h hread)
    (Config.exists_bind_parentOf_eq_error h hread)

/-- A read of values uses a default at a key only if the key is missing. -/
lemma defaultsAt (hread : ReadsValues tree read) {node : Node} (hnode : node.tree = tree)
    (key : String) :
    DefaultsOnly (normalizeKey key ∉ node.keys) (∃ child, node.getRaw? key = some (.node child))
      (read node key) (Error.orDefault (read node key)) := by
  refine Error.defaultsOnly_orDefault ?_ fun ⟨child, hchild⟩ => ?_
  · rw [hread.isMiss_eq node key hnode, Bool.not_eq_true', contains_eq_false_iff]
  · exact hread.error_of_node node key child hchild

end Node.ReadsValues

/-- **Defaults are for missing entries only**, in every tree whose treatment reports no failure to
read a text as a missing key, as all treatments do that options ask for. A read along a path gives its
default exactly if some segments of the path lead to a node that lacks the next one; in all other
cases it gives what the read without a default gives, and a path that goes on below a value or ends
at a node is an error under every default. The same holds for reads of a single key.

**Proof sketch.** A default replaces a result that found nothing (`Error.orDefault_eq`), and a read
finds nothing exactly if the path is missing (`Config.isMiss_bind_parentOf_iff`). -/
theorem Tree.defaults_for_missing_only :
    (∀ options : Options, options.treatment.NeverMisses) ∧
    ∀ tree : Tree, tree.treatment.NeverMisses →
      (∀ options path, (Config.mk tree options).DefaultsAlong path) ∧
      ∀ id key, (Node.mk tree id).DefaultsAt key := by
  refine ⟨Options.neverMisses_treatment, fun tree h => ?_⟩
  have hvalue : Node.ReadsValues tree Node.getValue := Node.readsValues_getValue h
  have hint : Node.ReadsValues tree Node.getInt := hvalue.bind fun _ _ => Node.isMiss_toInt
  have hfloat : Node.ReadsValues tree Node.getFloat := hvalue.bind fun _ _ => Node.isMiss_toFloat
  have hbool : Node.ReadsValues tree Node.getBool := hvalue.bind fun _ _ => Node.isMiss_toBool
  have htext : Node.ReadsValues tree Node.getString := hvalue.bind fun _ _ => Node.isMiss_toText
  refine ⟨fun options path => ?_, fun id key => ?_⟩
  · exact ⟨hvalue.defaultsAlong h rfl path, hint.defaultsAlong h rfl path,
      hfloat.defaultsAlong h rfl path, hbool.defaultsAlong h rfl path,
      htext.defaultsAlong h rfl path⟩
  · have hentry : isMiss ((Node.mk tree id).get key) = true ↔
        normalizeKey key ∉ (Node.mk tree id).keys := by
      rw [Node.isMiss_get h, Bool.not_eq_true', Node.contains_eq_false_iff]
    exact ⟨Error.defaultsOnly_orDefault hentry False.elim, hvalue.defaultsAt rfl key,
      hint.defaultsAt rfl key, hfloat.defaultsAt rfl key, hbool.defaultsAt rfl key,
      htext.defaultsAt rfl key⟩

namespace Tree

/-- A tree with an option that refers to a missing one, and with an option that holds a number. -/
def broken : Tree :=
  ⟨#[⟨.options, [("x", .value (.string "$\x7ba.b.z\x7d")), ("n", .value (.integer 1))],
        some (some 1)⟩,
      ⟨.subsections, [("b", .node 0)], some (some 2)⟩,
      ⟨.sections, [("a", .node 1)], some none⟩], 2, ({} : Options).treatment⟩

/-- The tree is built from a mapping. -/
lemma build_broken : build ({} : Options).treatment
    [("a", .mapping [("b", .mapping [("x", .string "$\x7ba.b.z\x7d"), ("n", .integer 1)])])]
    "ROOT" 0 = .ok broken :=
  rfl

/-- The first move of the substitution ends it, since the option referred to is missing. -/
lemma getValue_broken :
    (Node.mk broken 0).getValue "x" = .error (.missingReference "a.b.z" "a.b.x") := by
  have h : broken.Represents ({} : Options).treatment 0 _ := represents_of_build build_broken
  have hwalk : broken.top.walk ["a", "b"] = .ok ⟨broken, 0⟩ := rfl
  have ha : normalizeKey "a" = "a" := by decide
  have hb : normalizeKey "b" = "b" := by decide
  have hstep : (Reference.start ⟨"a", "b", "x"⟩ "$\x7ba.b.z\x7d").step
      (broken.nodes.stored? broken.root) ⟨"a", "b", "x"⟩ =
        .stop (.error (.missingReference "a.b.z" "a.b.x")) := rfl
  rw [h.getValue_of_substitutes (Node.walk_eq_ok_iff.mp hwalk).2 rfl rfl, ha, hb,
    Reference.substitute, Reference.Machine.run_of_step_stop hstep]
  rfl

/-- There the default stands in for an option that is missing. It stands in neither for the reference
nor for a path that goes on below the number or ends at a node. -/
theorem defaults_for_missing_only_broken :
    (∀ fallback, (Config.mk broken {}).getStringOr "a.b.y" fallback = .ok fallback) ∧
      (∀ fallback, (Config.mk broken {}).getStringOr "a.b.x" fallback =
        .error (.missingReference "a.b.z" "a.b.x")) ∧
      (∃ e, ∀ fallback, (Config.mk broken {}).getStringOr "a.b.n.y" fallback = .error e) ∧
      (∃ e, ∀ fallback, (Config.mk broken {}).getStringOr "a.b" fallback = .error e) ∧
      ∀ fallback, (Node.mk broken 0).getOr "Y" fallback = .ok fallback := by
  obtain ⟨hpaths, hkeys⟩ := defaults_for_missing_only.2 broken (defaults_for_missing_only.1 {})
  have hwalk : (Config.mk broken {}).root.walk ["a", "b"] = .ok ⟨broken, 0⟩ := rfl
  have hreference : (Config.mk broken {}).getString "a.b.x" =
      .error (.missingReference "a.b.z" "a.b.x") := by
    change (Node.mk broken 0).getString "x" = _
    rw [Node.getString, getValue_broken]
    rfl
  have hthrough : (Config.mk broken {}).Misused "a.b.n.y" :=
    ⟨["a", "b"], "n", ["y"], _, by decide, hwalk, .inl ⟨by simp, .integer 1, rfl⟩⟩
  have hends : (Config.mk broken {}).Misused "a.b" :=
    ⟨["a"], "b", [], ⟨broken, 1⟩, by decide, rfl, .inr ⟨rfl, ⟨broken, 0⟩, rfl⟩⟩
  obtain ⟨e, -, he⟩ := (hpaths {} "a.b.n.y").getStringOr.of_misused hthrough
  obtain ⟨e', -, he'⟩ := (hpaths {} "a.b").getStringOr.of_misused hends
  refine ⟨?_, ?_, ⟨e, he⟩, ⟨e', he'⟩, ?_⟩
  · exact (hpaths {} "a.b.y").getStringOr.of_missing
      ⟨["a", "b"], "y", [], _, by decide, hwalk, by decide⟩
  · exact (hpaths {} "a.b.x").getStringOr.of_error _ hreference rfl
  · exact (hkeys 0 "Y").getOr.of_missing (by decide)

end Tree

end ConfigTree
