import ConfigTree.Command.Run
import ConfigTree.Proofs.Config.Fallback
import ConfigTree.Proofs.Config.Plain
import ConfigTree.Proofs.Config.TypedReference

set_option relaxedAutoImplicit false
set_option autoImplicit false

/-!
# What a check says about later look-ups

A check loads files and reads all of their values. It tells apart the files that cannot be loaded,
those that hold a value that cannot be read, and those that it accepts. On a file that was accepted, a
look-up of a path can fail in two ways only: a segment of the path is missing, or the path goes on
below a value.

## Main definitions

* `ConfigTree.Command.Unloadable`, `ConfigTree.Command.Unresolved` — the files that a check rejects.
* `ConfigTree.Config.LacksSegment`, `ConfigTree.Config.PassesValue` — the two ways in which a path can
  fail, each with its error.
* `ConfigTree.Command.Answer` — what is reported on a path of a file that was accepted.

## Main results

* `ConfigTree.Command.verdict_checkFile` — what becomes of the check of one file.
* `ConfigTree.Tree.AllRead.walk_cases` — a walk arrives, or it fails in one of the two ways.
* `ConfigTree.Config.lookup_cases` — the same for the look-up of a path.
* `ConfigTree.Command.check_sound` — the exit codes of a check, and what they say about look-ups.
-/

namespace ConfigTree

/-! ## Reading in a tree whose values all can be read -/

/-- A key of a node leads on to no other node, and the error says why: the key is missing, or what it
holds reads as a value. -/
inductive Node.Refuses (node : Node) (key : String) : Error → Prop where
  /-- The key is missing. -/
  | missing (hkey : normalizeKey key ∉ node.keys) : Refuses node key (node.notFound key)
  /-- The key holds a value. -/
  | value {raw value : Value} (hkey : node.getRaw? key = some (.value raw))
    (hread : node.getValue key = .ok value) :
    Refuses node key (node.mismatch key "node" value.typeName)

namespace Tree

variable {tree : Tree} {options : Options} {depth : ℕ} {mapping : Mapping} {node : Node}
  {key : String}

/-- **A value is read under every spelling** of its key, if all values can be read under their stored
keys. -/
lemma AllRead.exists_getValue (hall : tree.AllRead)
    (h : tree.Represents options.treatment depth mapping) (hnode : node.tree = tree) {raw : Value}
    (hkey : node.getRaw? key = some (.value raw)) : ∃ value, node.getValue key = .ok value := by
  obtain ⟨_, id⟩ := node
  obtain rfl : _ = tree := hnode
  have hmem := Node.mem_toList_of_getRaw? hkey
  obtain ⟨value, hvalue⟩ := hall id (lt_nodeCount_of_mem_toList hmem) (normalizeKey key) raw hmem
  refine ⟨value, Node.getValue_congr (normalizeKey_normalizeKey key).symm ?_ hvalue⟩
  intro text found hfound
  rw [Node.resolve, h.treatment_eq] at hfound ⊢
  exact Options.read_of_key hfound key

/-- What a key reads as in such a tree: a node, a value, or an error about a missing key. -/
lemma AllRead.get_cases (hall : tree.AllRead)
    (h : tree.Represents options.treatment depth mapping) (hnode : node.tree = tree) (key : String) :
    (∃ child : Node, child.tree = tree ∧ node.get key = .ok (.node child)) ∨
    (∃ raw value, node.getRaw? key = some (.value raw) ∧ node.getValue key = .ok value ∧
      node.get key = .ok (.value value)) ∨
    (normalizeKey key ∉ node.keys ∧ node.get key = .error (node.notFound key)) := by
  cases hkey : node.getRaw? key with
  | none =>
    refine .inr (.inr ⟨Node.getRaw?_eq_none_iff.mp hkey, ?_⟩)
    rw [Node.get, hkey]
  | some entry =>
    cases entry with
    | node child =>
      refine .inl ⟨child, ?_, Node.get_eq_node_iff.mpr hkey⟩
      obtain ⟨slot, -, hslot⟩ := Option.map_eq_some_iff.mp hkey
      cases slot with
      | node id =>
        obtain rfl := Entry.node.inj hslot
        exact hnode
      | value raw => simp [entry] at hslot
    | value raw =>
      obtain ⟨value, hvalue⟩ := hall.exists_getValue h hnode hkey
      exact .inr (.inl ⟨raw, value, rfl, hvalue, Node.get_eq_value_iff.mpr hvalue⟩)

/-- Such a key leads on to a node, or it refuses to. -/
lemma AllRead.getNode_cases (hall : tree.AllRead)
    (h : tree.Represents options.treatment depth mapping) (hnode : node.tree = tree) (key : String) :
    (∃ child : Node, child.tree = tree ∧ node.getNode key = .ok child) ∨
    ∃ e, node.Refuses key e ∧ node.getNode key = .error e := by
  rcases hall.get_cases h hnode key with ⟨child, hchild, hget⟩ | ⟨raw, value, hraw, hvalue, hget⟩ |
    ⟨hmissing, hget⟩
  · refine .inl ⟨child, hchild, ?_⟩
    rw [Node.getNode, hget]
  · refine .inr ⟨_, .value hraw hvalue, ?_⟩
    rw [Node.getNode, hget]
  · refine .inr ⟨_, .missing hmissing, ?_⟩
    rw [Node.getNode, hget]

/-- **A walk** in such a tree arrives at a node, or it comes to a node that refuses the next key.

**Proof sketch.** Induction on the keys; the walk goes on at the child under the first one. -/
lemma AllRead.walk_cases (hall : tree.AllRead)
    (h : tree.Represents options.treatment depth mapping) (hnode : node.tree = tree)
    (keys : List String) :
    (∃ target : Node, target.tree = tree ∧ node.walk keys = .ok target) ∨
    ∃ before key after target e, keys = before ++ key :: after ∧ node.walk before = .ok target ∧
      target.Refuses key e ∧ node.walk keys = .error e := by
  induction keys generalizing node with
  | nil => exact .inl ⟨node, hnode, rfl⟩
  | cons first rest ih =>
    rcases hall.getNode_cases h hnode first with ⟨child, hchild, hget⟩ | ⟨e, hrefuses, hget⟩
    · have hstep (keys : List String) : node.walk (first :: keys) = child.walk keys := by
        rw [Node.walk, hget]
        rfl
      rcases ih hchild with ⟨target, htarget, hwalk⟩ |
        ⟨before, key, after, target, e, rfl, hbefore, hrefuses, hwalk⟩
      · exact .inl ⟨target, htarget, (hstep rest).trans hwalk⟩
      · exact .inr ⟨first :: before, key, after, target, e, rfl, (hstep before).trans hbefore,
          hrefuses, (hstep _).trans hwalk⟩
    · refine .inr ⟨[], first, rest, node, e, rfl, rfl, hrefuses, ?_⟩
      rw [Node.walk, hget]
      rfl

end Tree

/-! ## Paths that fail -/

namespace Config

/-- Some segments of the path lead to a node that lacks the next one, and the error says so. -/
def LacksSegment (config : Config) (path : String) (e : Error) : Prop :=
  ∃ before key after node, Text.segments path = before ++ key :: after ∧
    config.root.walk before = .ok node ∧ normalizeKey key ∉ node.keys ∧ e = node.notFound key

/-- The path goes on below a segment that holds a value, and the error says that what this value reads
as is no node. -/
def PassesValue (config : Config) (path : String) (e : Error) : Prop :=
  ∃ before key after node raw value, Text.segments path = before ++ key :: after ∧ after ≠ [] ∧
    config.root.walk before = .ok node ∧ node.getRaw? key = some (.value raw) ∧
    node.getValue key = .ok value ∧ e = node.mismatch key "node" value.typeName

variable {config : Config} {path : String} {e : Error}

/-- The error about a missing segment is one that a default may stand in for. -/
lemma LacksSegment.isNotFound (h : config.LacksSegment path e) : e.isNotFound = true := by
  obtain ⟨_, key, _, node, -, -, -, rfl⟩ := h
  exact node.isNotFound_notFound key

/-- The error about a value on the way is one that no default stands in for. -/
lemma PassesValue.isNotFound (h : config.PassesValue path e) : e.isNotFound = false := by
  obtain ⟨_, _, _, _, _, _, -, -, -, -, -, rfl⟩ := h
  rfl

/-- Neither of the two errors comes from a reference. -/
lemma LacksSegment.isInterpolation (h : config.LacksSegment path e) :
    e.isInterpolation = false := by
  cases hreference : e.isInterpolation with
  | false => rfl
  | true => exact absurd (Error.isNotFound_of_isInterpolation hreference) (by simp [h.isNotFound])

/-- The same for the error about a value on the way. -/
lemma PassesValue.isInterpolation (h : config.PassesValue path e) : e.isInterpolation = false := by
  obtain ⟨_, _, _, _, _, _, -, -, -, -, -, rfl⟩ := h
  rfl

/-- **Look-ups without failures of references.** If all values of a configuration can be read, a path
leads to an entry, or it fails in one of the two ways.

**Proof sketch.** The segments that name nodes are walked (`Tree.AllRead.walk_cases`), and the last one is
read (`Tree.AllRead.get_cases`). -/
lemma lookup_cases {options : Options} {depth : ℕ} {mapping : Mapping}
    (hall : config.tree.AllRead) (h : config.tree.Represents options.treatment depth mapping)
    (path : String) :
    (∃ entry, config.lookup path = .ok entry ∧
      ∀ child, entry = .node child → child.tree = config.tree) ∨
    ∃ e, config.lookup path = .error e ∧ path ≠ "" ∧
      (config.LacksSegment path e ∨ config.PassesValue path e) := by
  by_cases hpath : path = ""
  · subst hpath
    exact .inl ⟨.node config.root, rfl, fun child hchild => Entry.node.inj hchild ▸ rfl⟩
  have hroot : config.root.tree = config.tree := rfl
  rcases hall.walk_cases h hroot (parentSegments path) with ⟨target, htarget, hwalk⟩ |
    ⟨before, key, after, target, e, hkeys, hbefore, hrefuses, hwalk⟩
  · have hlookup : config.lookup path = target.get (lastSegment path) := by
      rw [lookup, if_neg hpath, parentOf, hwalk]
      rfl
    rw [hlookup]
    rcases hall.get_cases h htarget (lastSegment path) with ⟨child, hchild, hget⟩ |
      ⟨raw, value, -, -, hget⟩ | ⟨hmissing, hget⟩
    · exact .inl ⟨_, hget, fun _ hnode => Entry.node.inj hnode ▸ hchild⟩
    · exact .inl ⟨_, hget, fun _ hnode => by simp at hnode⟩
    · exact .inr ⟨_, hget, hpath, .inl ⟨parentSegments path, lastSegment path, [], target,
        segments_eq path, hwalk, hmissing, rfl⟩⟩
  · have hlookup : config.lookup path = .error e := by
      rw [lookup, if_neg hpath, parentOf, hwalk]
      rfl
    have hsegments : Text.segments path = before ++ key :: (after ++ [lastSegment path]) := by
      rw [segments_eq, hkeys, List.append_assoc, List.cons_append]
    refine .inr ⟨e, hlookup, hpath, ?_⟩
    cases hrefuses with
    | missing hmissing => exact .inl ⟨before, key, _, target, hsegments, hbefore, hmissing, rfl⟩
    | @value raw value hraw hvalue =>
      exact .inr ⟨before, key, _, target, raw, value, hsegments, by simp, hbefore, hraw, hvalue, rfl⟩

/-- So the value at a path is found, or the path fails in one of the two ways.

**Proof sketch.** A node at the end of the path is exported, which succeeds since all values can be
read. -/
lemma valueAt_cases {options : Options} {depth : ℕ} {mapping : Mapping}
    (hall : config.tree.AllRead) (h : config.tree.Represents options.treatment depth mapping)
    (path : String) :
    (∃ value, Command.valueAt config path false = .ok value) ∨
    ∃ e, Command.valueAt config path false = .error e ∧ path ≠ "" ∧
      (config.LacksSegment path e ∨ config.PassesValue path e) := by
  rcases lookup_cases hall h path with ⟨entry, hlookup, hentry⟩ | ⟨e, hlookup, hfails⟩
  · obtain ⟨value, hvalue⟩ : ∃ value, Command.entryValue true entry = .ok value := by
      cases entry with
      | value value => exact ⟨value, rfl⟩
      | node child =>
        rw [Command.entryValue, Node.toValue, hentry child rfl]
        exact hall.exists_exportFrom h.descends child.id
    exact .inl ⟨value, bind_eq_ok_iff.mpr ⟨entry, hlookup, hvalue⟩⟩
  · refine .inr ⟨e, ?_, hfails⟩
    simp only [Command.valueAt, hlookup]
    rfl

end Config

/-! ## Checks -/

namespace Command

variable {read : Reading} {file : String} {files : List String}

/-- The file cannot be loaded. -/
def Unloadable (read : Reading) (file : String) : Prop :=
  ∃ e, loadFile read file = .error e

/-- The file can be loaded, and its configuration stores a value that cannot be read. -/
def Unresolved (read : Reading) (file : String) : Prop :=
  ∃ config, loadFile read file = .ok config ∧ ∃ id < config.tree.nodeCount, ∃ key raw e,
    (key, .value raw) ∈ (Node.mk config.tree id).toList ∧
      (Node.mk config.tree id).getValue key = .error e

/-- A file that is loaded becomes a tree under the usual options. -/
lemma exists_represents {config : Config} (h : loadFile read file = .ok config) :
    ∃ mapping, config.tree.Represents ({} : Options).treatment 0 mapping := by
  obtain ⟨mapping, -, hbuild⟩ := bind_eq_ok_iff.mp h
  exact ⟨mapping, Config.represents_of_build hbuild⟩

/-- **What becomes of the check of a file** is decided by loading it and by reading its values. -/
lemma verdict_checkFile (read : Reading) (file : String) :
    ((checkFile read file).2 = .notLoaded ∧ Unloadable read file ∧ ¬ Unresolved read file) ∨
    ((checkFile read file).2 = .failure ∧ ¬ Unloadable read file ∧ Unresolved read file) ∨
    ((checkFile read file).2 = .success ∧ ¬ Unloadable read file ∧ ¬ Unresolved read file) := by
  cases hload : loadFile read file with
  | error e =>
    refine .inl ⟨?_, ⟨e, hload⟩, ?_⟩
    · simp only [checkFile, hload]
    · rintro ⟨config, hconfig, -⟩
      simp [hload] at hconfig
  | ok config =>
    have hloaded : ¬ Unloadable read file := by
      rintro ⟨e, he⟩
      simp [hload] at he
    obtain ⟨mapping, h⟩ := exists_represents hload
    have hunresolved : Unresolved read file ↔ ¬ config.tree.AllRead := by
      simp only [Unresolved, hload, Except.ok.injEq, exists_eq_left', Tree.AllRead, not_forall,
        exists_prop]
      refine exists_congr fun id => and_congr_right fun _ => exists_congr fun key =>
        exists_congr fun raw => ?_
      rw [exists_and_left]
      refine and_congr_right fun _ => ?_
      cases (Node.mk config.tree id).getValue key <;> simp
    have hresolve : config.resolveAll = .ok () ↔ config.tree.AllRead :=
      Config.resolveAll_eq_ok_iff h config.options
    refine .inr ?_
    cases hall : config.resolveAll with
    | ok result =>
      refine .inr ⟨?_, hloaded, fun h => hunresolved.mp h (hresolve.mp hall)⟩
      simp only [checkFile, hload, hall]
    | error e =>
      refine .inl ⟨?_, hloaded, hunresolved.mpr fun h => ?_⟩
      · simp only [checkFile, hload, hall]
      · simp [hresolve.mpr h] at hall

/-- A file that cannot be loaded is told apart from all others. -/
lemma checkFile_notLoaded_iff (file : String) :
    (checkFile read file).2 = .notLoaded ↔ Unloadable read file := by
  rcases verdict_checkFile read file with ⟨h, hload, -⟩ | ⟨h, hload, -⟩ | ⟨h, hload, -⟩ <;>
    simp [h, hload]

/-- So is a file that can be loaded and holds a value that cannot be read. -/
lemma checkFile_failure_iff (file : String) :
    (checkFile read file).2 = .failure ↔ Unresolved read file := by
  rcases verdict_checkFile read file with ⟨h, -, hread⟩ | ⟨h, -, hread⟩ | ⟨h, -, hread⟩ <;>
    simp [h, hread]

/-- **The verdict of a check** of several files. -/
lemma verdict_check (read : Reading) (files : List String) :
    ((run read (.check files)).verdict = .notLoaded ↔ ∃ file ∈ files, Unloadable read file) ∧
    ((run read (.check files)).verdict = .failure ↔
      (∀ file ∈ files, ¬ Unloadable read file) ∧ ∃ file ∈ files, Unresolved read file) ∧
    ((run read (.check files)).verdict = .success ↔
      ∀ file ∈ files, ¬ Unloadable read file ∧ ¬ Unresolved read file) := by
  have hany {verdict : Verdict} {p : String → Prop}
      (h : ∀ file, (checkFile read file).2 = verdict ↔ p file) :
      ((files.map (checkFile read)).any fun check => check.2 = verdict) = true ↔
        ∃ file ∈ files, p file := by
    simp [h]
  have hloads := hany checkFile_notLoaded_iff
  have hreads := hany checkFile_failure_iff
  simp only [run, reportCheck]
  by_cases hload : ∃ file ∈ files, Unloadable read file
  · rw [if_pos (hloads.mpr hload)]
    obtain ⟨file, hfile, hunloadable⟩ := hload
    refine ⟨by simpa using ⟨file, hfile, hunloadable⟩, ?_, ?_⟩
    · simp only [reduceCtorEq, false_iff]
      exact fun h => h.1 file hfile hunloadable
    · simp only [reduceCtorEq, false_iff]
      exact fun h => (h file hfile).1 hunloadable
  · rw [if_neg (hloads.not.mpr hload)]
    have hall : ∀ file ∈ files, ¬ Unloadable read file := by simpa using hload
    by_cases hresolve : ∃ file ∈ files, Unresolved read file
    · rw [if_pos (hreads.mpr hresolve)]
      refine ⟨by simpa using hall, by simpa using ⟨hall, hresolve⟩, ?_⟩
      obtain ⟨file, hfile, hunresolved⟩ := hresolve
      simp only [reduceCtorEq, false_iff]
      exact fun h => (h file hfile).2 hunresolved
    · rw [if_neg (hreads.not.mpr hresolve)]
      have hnone : ∀ file ∈ files, ¬ Unresolved read file := by simpa using hresolve
      refine ⟨by simpa using hall, ?_, by simpa using fun file hfile =>
        ⟨hall file hfile, hnone file hfile⟩⟩
      simp only [reduceCtorEq, false_iff]
      exact fun h => hresolve h.2

/-- The order of the files plays no part. -/
lemma verdict_check_perm (read : Reading) {files' : List String} (hfiles : files.Perm files') :
    (run read (.check files)).verdict = (run read (.check files')).verdict := by
  obtain ⟨hload, hfail, hok⟩ := verdict_check read files
  obtain ⟨hload', hfail', hok'⟩ := verdict_check read files'
  simp only [← hfiles.mem_iff] at hload' hfail' hok'
  cases hverdict : (run read (.check files)).verdict with
  | notLoaded => exact (hload'.mpr (hload.mp hverdict)).symm
  | failure => exact (hfail'.mpr (hfail.mp hverdict)).symm
  | success => exact (hok'.mpr (hok.mp hverdict)).symm

/-! ## Look-ups in files that were accepted -/

/-- What is reported on a path of a file that was accepted: the value at the path, the default in place of
a missing one, or one of the two errors. -/
inductive Answer (config : Config) (events : List Event) (path format : String)
    (fallback : Option String) : Report → Prop where
  /-- The value is found and printed. -/
  | found {value : Value} {text : String} (hvalue : valueAt config path false = .ok value)
    (htext : printValue format value = .ok text) :
    Answer config events path format fallback
      ⟨events.map .event ++ [.output text], .success, none⟩
  /-- A segment is missing, and the default is printed. -/
  | default {text : String} {e : Error} (hpath : path ≠ "") (hmissing : config.LacksSegment path e)
    (hfallback : fallback = some text) :
    Answer config events path format fallback
      ⟨(events ++ [Event.missing path]).map .event ++ [.output (text ++ "\n")], .success, none⟩
  /-- A segment is missing, and there is no default. -/
  | missing {e : Error} (hpath : path ≠ "") (hmissing : config.LacksSegment path e)
    (hfallback : fallback = none) :
    Answer config events path format fallback
      (.failed events .failure ("Error: Path \x27" ++ path ++ "\x27 not found\n" ++ e.message))
  /-- The path goes on below a value. -/
  | through {e : Error} (hpath : path ≠ "") (hvalue : config.PassesValue path e) :
    Answer config events path format fallback
      (.failed events .failure ("Error: " ++ e.message))

/-- Every value can be printed in the three forms. -/
lemma exists_printValue {format : String} (hformat : format ∈ ["text", "json", "yaml"])
    (value : Value) : ∃ text, printValue format value = .ok text := by
  simp only [List.mem_cons, List.not_mem_nil, or_false] at hformat
  rcases hformat with rfl | rfl | rfl
  · cases value <;> exact ⟨_, rfl⟩
  · exact ⟨_, rfl⟩
  · exact ⟨_, rfl⟩

/-- The report on a path of a configuration whose values all can be read. -/
lemma answer_reportValue {config : Config} {options : Options} {depth : ℕ} {mapping : Mapping}
    (hall : config.tree.AllRead) (h : config.tree.Represents options.treatment depth mapping)
    {format : String} (hformat : format ∈ ["text", "json", "yaml"]) (path : String)
    (fallback : Option String) (events : List Event) :
    Answer config events path format fallback
      (reportValue path false format fallback events config) := by
  rw [reportValue]
  rcases Config.valueAt_cases hall h path with ⟨value, hvalue⟩ | ⟨e, he, hpath, hmissing | hthrough⟩
  · obtain ⟨text, htext⟩ := exists_printValue hformat value
    simp only [hvalue, htext]
    exact .found hvalue htext
  · simp only [he, hmissing.isNotFound, if_true]
    cases fallback with
    | some text => exact .default hpath hmissing rfl
    | none => exact .missing hpath hmissing rfl
  · simp only [he, hthrough.isNotFound]
    exact .through hpath hthrough

/-- **A check is sound for look-ups.** Its exit code is 2 if some file cannot be loaded, otherwise 1 if
some file holds a value that cannot be read, and otherwise 0, in whatever order the files are named. A
file that it accepts can be loaded, and for every path and every form of output the look-up of the path
prints what is found there; or a segment of the path is missing, which is reported unless there is a
default to print; or the path goes on below a value, and this is reported. No failure of a reference
shows up.

**Proof sketch.** A check reads all values under their stored keys, and a look-up reads some of them,
maybe under other spellings (`Tree.AllRead.exists_getValue`), and exports others, as the check did. -/
theorem check_sound (read : Reading) :
    (∀ files,
      ((run read (.check files)).verdict.code = 2 ↔ ∃ file ∈ files, Unloadable read file) ∧
      ((run read (.check files)).verdict.code = 1 ↔
        (∀ file ∈ files, ¬ Unloadable read file) ∧ ∃ file ∈ files, Unresolved read file) ∧
      ((run read (.check files)).verdict.code = 0 ↔
        ∀ file ∈ files, ¬ Unloadable read file ∧ ¬ Unresolved read file) ∧
      ∀ files', files.Perm files' →
        (run read (.check files)).verdict = (run read (.check files')).verdict) ∧
    ∀ file, (run read (.check [file])).verdict = .success →
      ∃ config, loadFile read file = .ok config ∧
        (∀ path format fallback, format ∈ ["text", "json", "yaml"] →
          Answer config (loadEvents read file ++ [.loaded file config.sectionCount]) path format
            fallback (run read (.get file path false format fallback))) ∧
        ∀ path e, valueAt config path false = .error e → e.isInterpolation = false := by
  have hcode (verdict : Verdict) : (verdict.code = 2 ↔ verdict = .notLoaded) ∧
      (verdict.code = 1 ↔ verdict = .failure) ∧ (verdict.code = 0 ↔ verdict = .success) := by
    cases verdict <;> decide
  refine ⟨fun files => ?_, fun file haccepted => ?_⟩
  · obtain ⟨htwo, hone, hzero⟩ := hcode (run read (.check files)).verdict
    rw [htwo, hone, hzero]
    obtain ⟨hload, hfail, hok⟩ := verdict_check read files
    exact ⟨hload, hfail, hok, fun _ => verdict_check_perm read⟩
  · obtain ⟨hload, hresolve⟩ := (verdict_check read [file]).2.2.mp haccepted file
      (List.mem_singleton.mpr rfl)
    cases hconfig : loadFile read file with
    | error e => exact absurd ⟨e, hconfig⟩ hload
    | ok config =>
      obtain ⟨mapping, h⟩ := exists_represents hconfig
      have hall : config.tree.AllRead := by
        intro id hid key raw hmem
        cases hvalue : (Node.mk config.tree id).getValue key with
        | ok value => exact ⟨value, rfl⟩
        | error e => exact absurd ⟨config, hconfig, id, hid, key, raw, e, hmem, hvalue⟩ hresolve
      refine ⟨config, rfl, fun path format fallback hformat => ?_, fun path e he => ?_⟩
      · simp only [run, onConfig, hconfig]
        exact answer_reportValue hall h hformat path fallback _
      · rcases Config.valueAt_cases hall h path with ⟨value, hvalue⟩ | ⟨e', he', -, hfails⟩
        · simp [hvalue] at he
        · obtain rfl := Except.error.inj (he'.symm.trans he)
          exact hfails.elim (·.isInterpolation) (·.isInterpolation)

/-- A file with two options, the second one with a reference to the first one. -/
def pairReading : Reading :=
  fun _ => .ok "[a]\nx = None\ny = $\x7ba.main.x\x7d\n"

/-- The mapping that the file denotes. -/
def pairMapping : Mapping :=
  [("a", .mapping [("main", .mapping [("x", .string "None"), ("y", .string "$\x7ba.main.x\x7d")])])]

/-- The nodes of that mapping, if texts are stored in this way. -/
def pairNodes (store : Value → Value) : Arena :=
  #[⟨.options, [("x", .value (store (.string "None"))),
      ("y", .value (store (.string "$\x7ba.main.x\x7d")))], some (some 1)⟩,
    ⟨.subsections, [("main", .node 0)], some (some 2)⟩,
    ⟨.sections, [("a", .node 1)], some none⟩]

/-- The configuration in the file. -/
def pairConfig : Config :=
  ⟨⟨pairNodes ({} : Options).store, 2, ({} : Options).treatment⟩, {}⟩

/-- The tree is evaluated for a way of storing that is not known, so that no text is inferred on the
way. -/
lemma build_pairMapping (treatment : Treatment) :
    Tree.build treatment pairMapping rootLabel 0 =
      .ok ⟨pairNodes treatment.store, 2, treatment⟩ := rfl

/-- The file is loaded. -/
lemma loadFile_pairReading : loadFile pairReading "f.ini" = .ok pairConfig := by
  have hformat : Format.ofFile "f.ini" = .ini := by decide +kernel
  have hparse : (Source.file "f.ini" (pairReading "f.ini")).mapping = .ok pairMapping := by
    simp only [Source.mapping, pairReading, hformat]
    rfl
  rw [loadFile, Source.load, hparse]
  simp only [bind, Except.bind, Config.build, build_pairMapping, Except.map]
  rfl

/-- Both options read as null, the second one through its reference. -/
lemma getValue_pairConfig :
    (Node.mk pairConfig.tree 0).getValue "x" = .ok .null ∧
      (Node.mk pairConfig.tree 0).getValue "y" = .ok .null := by
  have h : pairConfig.tree.Represents ({} : Options).treatment 0 pairMapping :=
    Tree.represents_of_build (build_pairMapping _)
  have hx : (Node.mk pairConfig.tree 0).getRaw? "x" = some (.value .null) :=
    congrArg (fun value => some (Entry.value value)) store_none
  have hy : (Node.mk pairConfig.tree 0).getRaw? "y" =
      some (.value (.string ("$\x7b" ++ "a.main.x" ++ "\x7d"))) :=
    congrArg (fun value => some (Entry.value value)) (store_reference (by decide))
  have hname : ∀ c ∈ "a.main.x".toList, Reference.isNameChar c :=
    List.all_eq_true.mp (by decide)
  have hvalue : pairConfig.tree.nodes.stored? pairConfig.tree.root ⟨"a", "main", "x"⟩ =
      some .null := congrArg some store_none
  have hwalk : pairConfig.tree.top.walk ["a", "main"] = .ok ⟨pairConfig.tree, 0⟩ := rfl
  refine ⟨Node.getValue_of_not_string hx rfl, ?_⟩
  rw [h.getValue_of_substitutes (Node.walk_eq_ok_iff.mp hwalk).2 hy rfl,
    Reference.substitute_reference hname rfl hvalue rfl, Except.map]
  exact congrArg Except.ok (Value.infer_toLiteral .null rfl)

/-- The check of the file finds nothing amiss. -/
lemma verdict_check_pairReading : (run pairReading (.check ["f.ini"])).verdict = .success := by
  obtain ⟨hx, hy⟩ := getValue_pairConfig
  refine (verdict_check pairReading ["f.ini"]).2.2.mpr fun file hfile => ?_
  obtain rfl := List.mem_singleton.mp hfile
  constructor
  · rintro ⟨e, he⟩
    simp [loadFile_pairReading] at he
  · rintro ⟨config, hconfig, id, hid, key, raw, e, hmem, he⟩
    obtain rfl := Except.ok.inj (loadFile_pairReading.symm.trans hconfig)
    match id, hid with
    | 0, _ =>
      have hkeys : (Node.mk pairConfig.tree 0).keys = ["x", "y"] := rfl
      have hkey : key ∈ ["x", "y"] := by
        rw [← hkeys, ← Node.keys_toList]
        exact Table.mem_keys_of_mem hmem
      obtain rfl | rfl : key = "x" ∨ key = "y" := by simpa using hkey
      · simp [hx] at he
      · simp [hy] at he
    | 1, _ => simp [Node.toList, Node.data, Arena.data, pairConfig, pairNodes, Tree.entry] at hmem
    | 2, _ => simp [Node.toList, Node.data, Arena.data, pairConfig, pairNodes, Tree.entry] at hmem

/-- The file is accepted, and so all paths are answered; the path of the second option leads to the
value of the first one. -/
theorem check_sound_pair :
    (run pairReading (.check ["f.ini"])).verdict = .success ∧
      loadFile pairReading "f.ini" = .ok pairConfig ∧
      valueAt pairConfig "a.main.y" false = .ok .null ∧
      ∀ path, Answer pairConfig
        (loadEvents pairReading "f.ini" ++ [.loaded "f.ini" pairConfig.sectionCount]) path "text" none
        (run pairReading (.get "f.ini" path false "text" none)) := by
  obtain ⟨config, hconfig, hanswer, -⟩ :=
    (check_sound pairReading).2 "f.ini" verdict_check_pairReading
  obtain rfl := Except.ok.inj (loadFile_pairReading.symm.trans hconfig)
  have hlookup : pairConfig.lookup "a.main.y" = .ok (.value .null) := by
    have hwalk : pairConfig.tree.top.walk ["a", "main"] = .ok ⟨pairConfig.tree, 0⟩ := rfl
    exact (Config.lookup_eq_ok_iff (by decide)).mpr
      ⟨0, (Node.walk_eq_ok_iff.mp hwalk).2, Node.get_eq_value_iff.mpr getValue_pairConfig.2⟩
  refine ⟨verdict_check_pairReading, loadFile_pairReading, ?_,
    fun path => hanswer path "text" none (by decide)⟩
  simp only [valueAt, hlookup]
  rfl

end Command

end ConfigTree
