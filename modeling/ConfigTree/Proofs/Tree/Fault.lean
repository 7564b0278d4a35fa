import Mathlib.Data.List.Basic
import Mathlib.Data.List.Nodup
import ConfigTree.Tree.Build

set_option relaxedAutoImplicit false
set_option autoImplicit false

/-!
# Faults of a nested mapping

A nested mapping cannot become a tree if one of its mappings stands too deep, or if two keys of one
of its mappings are the same key. This file lists these faults in the order in which one meets them
when one reads the mapping entry by entry and depth first, without reference to a tree.

## Main definitions

* `ConfigTree.Mapping.Reaches` — the mappings inside a mapping, with the paths that lead to them.
* `ConfigTree.Mapping.normalized` — a mapping with its keys normalized.
* `ConfigTree.Mapping.faults` — the faults in the entries of a mapping, in order.
* `ConfigTree.Mapping.faultsAt` — the same with the mapping itself.

## Main results

* `ConfigTree.Mapping.induction` — induction over the entries of a mapping and of those inside it.
* `ConfigTree.Mapping.faultsAt_eq_nil_iff` — there is no fault exactly if every mapping stands high
  enough and has distinct normalized keys.
-/

namespace ConfigTree

namespace Mapping

/-- Induction over the entries of a mapping, through the mappings among them. -/
@[elab_as_elim]
theorem induction {motive : Mapping → Prop} (nil : motive [])
    (leaf : ∀ key value rest, value.asMapping? = none → motive rest →
      motive ((key, value) :: rest))
    (node : ∀ key inner rest, motive inner → motive rest →
      motive ((key, .mapping inner) :: rest)) : ∀ mapping, motive mapping
  | [] => nil
  | (key, .mapping inner) :: rest =>
    node key inner rest (induction nil leaf node inner) (induction nil leaf node rest)
  | (key, .null) :: rest => leaf key _ rest rfl (induction nil leaf node rest)
  | (key, .bool _) :: rest => leaf key _ rest rfl (induction nil leaf node rest)
  | (key, .integer _) :: rest => leaf key _ rest rfl (induction nil leaf node rest)
  | (key, .float _) :: rest => leaf key _ rest rfl (induction nil leaf node rest)
  | (key, .string _) :: rest => leaf key _ rest rfl (induction nil leaf node rest)
  | (key, .sequence _) :: rest => leaf key _ rest rfl (induction nil leaf node rest)
termination_by mapping => sizeOf mapping

/-- The path leads from a mapping to a mapping inside it, by keys as they are written. -/
inductive Reaches : Mapping → List String → Mapping → Prop where
  /-- The empty path leads to the mapping itself. -/
  | here (mapping : Mapping) : Reaches mapping [] mapping
  /-- A key of a mapping leads to the mapping it holds, and a path from there further on. -/
  | step {mapping inner target : Mapping} {key : String} {path : List String}
      (hmem : (key, .mapping inner) ∈ mapping) (hreach : Reaches inner path target) :
      Reaches mapping (key :: path) target

/-- The mapping with its keys normalized. -/
def normalized (mapping : Mapping) : Mapping :=
  mapping.map fun (key, value) => (normalizeKey key, value)

/-- An empty mapping has no keys to normalize. -/
@[simp] lemma normalized_nil : normalized [] = [] := rfl

/-- The first key of a mapping is normalized, and the others are. -/
@[simp] lemma normalized_cons (key : String) (value : Value) (rest : Mapping) :
    normalized ((key, value) :: rest) = (normalizeKey key, value) :: rest.normalized := rfl

/-- Mappings that are put together are normalized one after the other. -/
@[simp] lemma normalized_append (mapping more : Mapping) :
    normalized (mapping ++ more) = mapping.normalized ++ more.normalized := List.map_append

/-- The keys of a normalized mapping are the normalized keys. -/
lemma keys_normalized (mapping : Mapping) :
    mapping.normalized.keys = mapping.keys.map normalizeKey := by
  simp [normalized, Table.keys]

/-! ## The list of faults -/

/-- How an error describes what an earlier key holds: a mapping by its keys, a value by the form in
which it is stored. -/
def shown (store : Value → Value) : Value → String
  | .mapping inner => "\x7b" ++ Text.joined ", " (Table.keys (normalized inner)) ++ "\x7d"
  | value =>
    match store value with
    | .string text => Text.quoted text
    | stored => stored.toLiteral

/-- The fault of a mapping at `path` that stands too deep. -/
def overflow (label : String) (path : List String) (depth : ℕ) : List Error :=
  if depth < maxLevel then [] else [.maxLevelExceeded (Tree.headerOf label path) maxLevel]

/-- The fault of a key that is the same as an earlier key of the mapping at `path`. -/
def clash (store : Value → Value) (path : List String) (depth : ℕ) (earlier : Mapping)
    (key : String) : List Error :=
  match earlier.normalized.get? (normalizeKey key) with
  | some existing =>
    [.duplicateKey (Level.ofDepth depth) (Text.dotted (path ++ [key])) (shown store existing)]
  | none => []

/-- The faults in entries of the mapping at `path` that come after the entries `earlier`: for each
entry first those inside it, then that of its own key. -/
def faults (store : Value → Value) (label : String) (path : List String) (depth : ℕ)
    (earlier : Mapping) : Mapping → List Error
  | [] => []
  | (key, .mapping inner) :: rest =>
    overflow label (path ++ [key]) (depth + 1) ++
      faults store label (path ++ [key]) (depth + 1) [] inner ++
      clash store path depth earlier key ++
      faults store label path depth (earlier ++ [(key, .mapping inner)]) rest
  | (key, value) :: rest =>
    clash store path depth earlier key ++
      faults store label path depth (earlier ++ [(key, value)]) rest
termination_by mapping => sizeOf mapping

/-- The faults of a mapping whose top stands at `depth`. -/
def faultsAt (store : Value → Value) (label : String) (depth : ℕ) (mapping : Mapping) :
    List Error :=
  overflow label [] depth ++ faults store label [] depth [] mapping

variable (store : Value → Value) (label : String)

/-- No entries have no faults. -/
lemma faults_nil (path : List String) (depth : ℕ) (earlier : Mapping) :
    faults store label path depth earlier [] = [] := by
  rw [faults]

/-- A value can only have a key that is there already. -/
lemma faults_leaf (path : List String) (depth : ℕ) (earlier : Mapping) (key : String)
    {value : Value} (hvalue : value.asMapping? = none) (rest : Mapping) :
    faults store label path depth earlier ((key, value) :: rest) =
      clash store path depth earlier key ++
        faults store label path depth (earlier ++ [(key, value)]) rest := by
  rw [faults]
  rintro inner rfl
  simp [Value.asMapping?] at hvalue

/-- A mapping inside a mapping can stand too deep, and its entries have faults before its own key.
-/
lemma faults_node (path : List String) (depth : ℕ) (earlier : Mapping) (key : String)
    (inner rest : Mapping) :
    faults store label path depth earlier ((key, .mapping inner) :: rest) =
      overflow label (path ++ [key]) (depth + 1) ++
        faults store label (path ++ [key]) (depth + 1) [] inner ++
        clash store path depth earlier key ++
        faults store label path depth (earlier ++ [(key, .mapping inner)]) rest := by
  rw [faults]

/-- A mapping that stands too deep is reported with the greatest number of levels. -/
lemma kind_of_mem_overflow (path : List String) (depth : ℕ) :
    ∀ e ∈ overflow label path depth, ∃ header, e.kind = .maxLevelExceeded header maxLevel := by
  intro e he
  unfold overflow at he
  split at he
  · simp at he
  · rw [List.mem_singleton.mp he]
    exact ⟨_, rfl⟩

/-- A key that is there already is reported as a duplicate key. -/
lemma kind_of_mem_clash (path : List String) (depth : ℕ) (earlier : Mapping) (key : String) :
    ∀ e ∈ clash store path depth earlier key,
      ∃ level key existing, e.kind = .duplicateKey level key existing := by
  intro e he
  unfold clash at he
  split at he
  · rw [List.mem_singleton.mp he]
    exact ⟨_, _, _, rfl⟩
  · simp at he

/-- Every fault is a mapping that stands too deep or a key that is there already. -/
lemma kind_of_mem_faults (mapping : Mapping) :
    ∀ (path : List String) (depth : ℕ) (earlier : Mapping),
      ∀ e ∈ faults store label path depth earlier mapping,
        (∃ header, e.kind = .maxLevelExceeded header maxLevel) ∨
          ∃ level key existing, e.kind = .duplicateKey level key existing := by
  induction mapping using Mapping.induction with
  | nil =>
    intro path depth earlier e he
    simp [faults_nil] at he
  | leaf key value rest hvalue ih =>
    intro path depth earlier e he
    rw [faults_leaf store label path depth earlier key hvalue, List.mem_append] at he
    rcases he with he | he
    · exact .inr (kind_of_mem_clash store path depth earlier key e he)
    · exact ih path depth _ e he
  | node key inner rest ihInner ih =>
    intro path depth earlier e he
    simp only [faults_node, List.mem_append] at he
    rcases he with ((he | he) | he) | he
    · exact .inl (kind_of_mem_overflow label _ _ e he)
    · exact ihInner _ _ [] e he
    · exact .inr (kind_of_mem_clash store path depth earlier key e he)
    · exact ih path depth _ e he

/-- The faults at the top are of the same two kinds. -/
lemma kind_of_mem_faultsAt (depth : ℕ) (mapping : Mapping) {e : Error}
    (he : e ∈ faultsAt store label depth mapping) :
    (∃ header, e.kind = .maxLevelExceeded header maxLevel) ∨
      ∃ level key existing, e.kind = .duplicateKey level key existing := by
  rcases List.mem_append.mp he with he | he
  · exact .inl (kind_of_mem_overflow label _ _ e he)
  · exact kind_of_mem_faults store label mapping _ _ _ e he

/-- A mapping does not stand too deep exactly if its depth is that of a level. -/
lemma overflow_eq_nil_iff (path : List String) (depth : ℕ) :
    overflow label path depth = [] ↔ depth < maxLevel := by
  unfold overflow
  split <;> simp_all

/-- If no mapping inside a mapping stands too deep, all faults are keys that are there already. -/
lemma duplicateKey_of_mem_faults (mapping : Mapping) :
    ∀ (path : List String) (depth : ℕ) (earlier : Mapping),
      (∀ key inner sub target, (key, .mapping inner) ∈ mapping → Reaches inner sub target →
        depth + 1 + sub.length < maxLevel) →
      ∀ e ∈ faults store label path depth earlier mapping,
        ∃ level key existing, e.kind = .duplicateKey level key existing := by
  induction mapping using Mapping.induction with
  | nil =>
    intro path depth earlier _ e he
    simp [faults_nil] at he
  | leaf key value rest hvalue ih =>
    intro path depth earlier hdeep e he
    rw [faults_leaf store label path depth earlier key hvalue, List.mem_append] at he
    rcases he with he | he
    · exact kind_of_mem_clash store path depth earlier key e he
    · refine ih path depth _ (fun k inner sub target hmem => ?_) e he
      exact hdeep k inner sub target (List.mem_cons_of_mem _ hmem)
  | node key inner rest ihInner ih =>
    intro path depth earlier hdeep e he
    have hhere := hdeep key inner [] inner List.mem_cons_self (.here inner)
    simp only [faults_node, List.mem_append] at he
    rcases he with ((he | he) | he) | he
    · have hnil := (overflow_eq_nil_iff label (path ++ [key]) (depth + 1)).mpr hhere
      simp [hnil] at he
    · refine ihInner _ _ [] (fun k inner' sub target hmem hreach => ?_) e he
      have := hdeep key inner (k :: sub) target List.mem_cons_self (.step hmem hreach)
      rw [List.length_cons] at this
      omega
    · exact kind_of_mem_clash store path depth earlier key e he
    · refine ih path depth _ (fun k inner' sub target hmem => ?_) e he
      exact hdeep k inner' sub target (List.mem_cons_of_mem _ hmem)

/-- The same from the top on: if no mapping stands too deep, all faults are duplicate keys. -/
lemma duplicateKey_of_mem_faultsAt (depth : ℕ) (mapping : Mapping)
    (hdeep : ∀ path target, Reaches mapping path target → depth + path.length < maxLevel)
    {e : Error} (he : e ∈ faultsAt store label depth mapping) :
    ∃ level key existing, e.kind = .duplicateKey level key existing := by
  have hnil := (overflow_eq_nil_iff label [] depth).mpr (hdeep [] mapping (.here mapping))
  rw [faultsAt, hnil, List.nil_append] at he
  refine duplicateKey_of_mem_faults store label mapping [] depth [] ?_ e he
  intro key inner sub target hmem hreach
  have := hdeep (key :: sub) target (.step hmem hreach)
  rw [List.length_cons] at this
  omega

/-! ## Mappings without faults -/

/-- A key has no fault exactly if no earlier key has the same normalized form. -/
lemma clash_eq_nil_iff (path : List String) (depth : ℕ) (earlier : Mapping) (key : String) :
    clash store path depth earlier key = [] ↔ normalizeKey key ∉ earlier.normalized.keys := by
  unfold clash
  rw [← Table.get?_eq_none_iff]
  split <;> simp_all

/-- A key that is not there can be added. -/
lemma nodup_keys_normalized_concat {earlier : Mapping} {key : String}
    (hearlier : earlier.normalized.keys.Nodup) (hkey : normalizeKey key ∉ earlier.normalized.keys)
    (value : Value) : (normalized (earlier ++ [(key, value)])).keys.Nodup := by
  rw [normalized_append, Table.keys_append, List.nodup_append']
  exact ⟨hearlier, by simp, by simpa using hkey⟩

/-- A key in distinct normalized keys is not among the earlier ones. -/
lemma not_mem_keys_normalized {earlier rest : Mapping} {key : String} {value : Value}
    (h : (normalized (earlier ++ (key, value) :: rest)).keys.Nodup) :
    normalizeKey key ∉ earlier.normalized.keys := by
  simp only [normalized_append, normalized_cons, Table.keys_append, Table.keys_cons] at h
  intro hmem
  exact (List.nodup_append'.mp h).2.2 hmem List.mem_cons_self

/-- **Without faults** the normalized keys are distinct, and the mappings inside have no faults and
stand high enough.

**Proof sketch.** Induction on the entries. The first key does not clash with the earlier ones, so it
can be counted among them for the entries that follow. -/
lemma of_faults_eq_nil (path : List String) (depth : ℕ) (mapping : Mapping) :
    ∀ earlier : Mapping, earlier.normalized.keys.Nodup →
      faults store label path depth earlier mapping = [] →
      (normalized (earlier ++ mapping)).keys.Nodup ∧
        ∀ key inner, (key, .mapping inner) ∈ mapping →
          depth + 1 < maxLevel ∧ faults store label (path ++ [key]) (depth + 1) [] inner = [] := by
  induction mapping using Mapping.induction with
  | nil =>
    intro earlier hearlier _
    exact ⟨by simpa using hearlier, by simp⟩
  | leaf key value rest hvalue ih =>
    intro earlier hearlier h
    rw [faults_leaf store label path depth earlier key hvalue, List.append_eq_nil_iff,
      clash_eq_nil_iff] at h
    obtain ⟨hkeys, hinside⟩ := ih _ (nodup_keys_normalized_concat hearlier h.1 value) h.2
    refine ⟨by simpa using hkeys, fun k inner hmem => ?_⟩
    rcases List.mem_cons.mp hmem with heq | hmem
    · obtain ⟨rfl, rfl⟩ : k = key ∧ .mapping inner = value := by simpa using heq
      simp [Value.asMapping?] at hvalue
    · exact hinside k inner hmem
  | node key inner rest _ ih =>
    intro earlier hearlier h
    rw [faults_node, List.append_eq_nil_iff, List.append_eq_nil_iff, List.append_eq_nil_iff,
      overflow_eq_nil_iff, clash_eq_nil_iff] at h
    obtain ⟨⟨⟨hdepth, hinner⟩, hkey⟩, hrest⟩ := h
    obtain ⟨hkeys, hinside⟩ := ih _ (nodup_keys_normalized_concat hearlier hkey _) hrest
    refine ⟨by simpa using hkeys, fun k inner' hmem => ?_⟩
    rcases List.mem_cons.mp hmem with heq | hmem
    · obtain ⟨rfl, rfl⟩ : k = key ∧ inner' = inner := by simpa using heq
      exact ⟨hdepth, hinner⟩
    · exact hinside k inner' hmem

/-- A mapping has no faults if all mappings inside it stand high enough and have distinct normalized
keys, and its own keys are distinct from each other and from the earlier ones.

**Proof sketch.** Induction on the entries and on those of the mappings inside. -/
lemma faults_eq_nil (mapping : Mapping) :
    ∀ (path : List String) (depth : ℕ) (earlier : Mapping),
      (normalized (earlier ++ mapping)).keys.Nodup →
      (∀ key inner sub target, (key, .mapping inner) ∈ mapping → Reaches inner sub target →
        depth + 1 + sub.length < maxLevel ∧ target.normalized.keys.Nodup) →
      faults store label path depth earlier mapping = [] := by
  induction mapping using Mapping.induction with
  | nil =>
    intro path depth earlier _ _
    exact faults_nil store label path depth earlier
  | leaf key value rest hvalue ih =>
    intro path depth earlier hkeys hinside
    have hkey := not_mem_keys_normalized hkeys
    rw [faults_leaf store label path depth earlier key hvalue, List.append_eq_nil_iff,
      clash_eq_nil_iff]
    refine ⟨hkey, ih path depth _ (by simpa using hkeys) fun k inner sub target hmem => ?_⟩
    exact hinside k inner sub target (List.mem_cons_of_mem _ hmem)
  | node key inner rest ihInner ih =>
    intro path depth earlier hkeys hinside
    have hkey := not_mem_keys_normalized hkeys
    have hhere := hinside key inner [] inner List.mem_cons_self (.here inner)
    rw [faults_node, List.append_eq_nil_iff, List.append_eq_nil_iff, List.append_eq_nil_iff,
      overflow_eq_nil_iff, clash_eq_nil_iff]
    refine ⟨⟨⟨hhere.1, ?_⟩, hkey⟩, ?_⟩
    · refine ihInner _ _ [] hhere.2 fun k inner' sub target hmem hreach => ?_
      have := hinside key inner (k :: sub) target List.mem_cons_self (.step hmem hreach)
      rw [List.length_cons] at this
      exact ⟨by omega, this.2⟩
    · refine ih path depth _ (by simpa using hkeys) fun k inner' sub target hmem => ?_
      exact hinside k inner' sub target (List.mem_cons_of_mem _ hmem)

/-- **There is no fault** exactly if every mapping inside a mapping, and the mapping itself, stands
above the last level and has distinct normalized keys.

**Proof sketch.** From left to right along the path to the mapping (`of_faults_eq_nil`), from right
to left by `faults_eq_nil`. -/
lemma faultsAt_eq_nil_iff (depth : ℕ) (mapping : Mapping) :
    faultsAt store label depth mapping = [] ↔
      ∀ path target, Reaches mapping path target →
        depth + path.length < maxLevel ∧ (target.keys.map normalizeKey).Nodup := by
  simp only [faultsAt, List.append_eq_nil_iff, overflow_eq_nil_iff, ← keys_normalized]
  constructor
  · rintro ⟨hdepth, hfaults⟩ path target hreach
    -- the path that errors show is carried along, since faults carry it
    generalize ([] : List String) = shownPath at hfaults
    induction hreach generalizing depth shownPath with
    | here mapping =>
      exact ⟨hdepth, (of_faults_eq_nil store label _ depth mapping [] (by simp) hfaults).1⟩
    | @step mapping inner target key path hmem _ ih =>
      obtain ⟨hdepth', hinner⟩ :=
        (of_faults_eq_nil store label _ depth mapping [] (by simp) hfaults).2 key inner hmem
      have := ih (depth + 1) hdepth' _ hinner
      rw [List.length_cons]
      exact ⟨by omega, this.2⟩
  · intro h
    have hhere := h [] mapping (.here mapping)
    refine ⟨hhere.1, faults_eq_nil store label mapping [] depth [] hhere.2 ?_⟩
    intro key inner sub target hmem hreach
    have := h (key :: sub) target (.step hmem hreach)
    rw [List.length_cons] at this
    exact ⟨by omega, this.2⟩

end Mapping

end ConfigTree
