import Mathlib.Data.List.Basic
import Mathlib.Data.List.Nodup
import ConfigTree.Proofs.Tree.Fault

set_option relaxedAutoImplicit false
set_option autoImplicit false

/-!
# How an arena stores a mapping

The nodes of the mappings inside a mapping take up consecutive places of the arena, each after the
nodes inside it. While a node is under construction, the nodes that its slots hold have no parent
yet; when it is closed, they get it. This file describes such a stretch of an arena, and shows that
building a tree either meets the first fault of the mapping or leaves such a stretch behind.

## Main definitions

* `ConfigTree.Error.Decides` — a result is the first of some faults, or good if there are none.
* `ConfigTree.Arena.Stores` — a stretch of an arena stores the entries of a mapping.
* `ConfigTree.Arena.Holds` — a node of an arena stores a mapping.
* `ConfigTree.Tree.Represents` — a tree stores a mapping, and nothing else.

## Main results

* `ConfigTree.Arena.Stores.close` — closing a node links its children and disturbs nothing else.
* `ConfigTree.Tree.decides_placeAll` — the run over the entries of a mapping.
* `ConfigTree.Tree.decides_build` — the faults of a mapping decide whether it becomes a tree.

## Implementation notes

The relation speaks of one stretch and says nothing of the places outside it, so that it survives
every change to those (`Arena.Stores.congr`). The cell of the parent is a parameter of the relation:
it is empty for the entries of a node under construction.
-/

namespace ConfigTree

/-! ## Results that faults decide -/

namespace Error

variable {α β γ : Type}

/-- The result is the first of the faults, or a good one if there are none. -/
def Decides (faults : List Error) (good : α → Prop) : Except Error α → Prop
  | .error e => faults.head? = some e
  | .ok a => faults = [] ∧ good a

namespace Decides

variable {faults more : List Error} {good : α → Prop} {result : Except Error α}

/-- The faults of one run come before those of the run that goes on with its result. -/
lemma bind {good' : β → Prop} {next : α → Except Error β} (h : Decides faults good result)
    (hnext : ∀ a, good a → Decides more good' (next a)) :
    Decides (faults ++ more) good' (result >>= next) := by
  cases result with
  | error e =>
    have h : faults.head? = some e := h
    show (faults ++ more).head? = some e
    rw [List.head?_append, h, Option.some_or]
  | ok a =>
    obtain ⟨rfl, hgood⟩ : faults = [] ∧ good a := h
    exact hnext a hgood

/-- The same if the first result is translated before the run goes on with it. -/
lemma bind_map {good' : γ → Prop} {f : α → β} {next : β → Except Error γ}
    (h : Decides faults good result) (hnext : ∀ a, good a → Decides more good' (next (f a))) :
    Decides (faults ++ more) good' (result.map f >>= next) := by
  have heq : result.map f >>= next = result >>= fun a => next (f a) := by
    cases result <;> rfl
  rw [heq]
  exact h.bind hnext

/-- What faults decide for a good result, they decide for a result that is good in a weaker sense.
-/
lemma mono {good' : α → Prop} (h : Decides faults good result) (hgood : ∀ a, good a → good' a) :
    Decides faults good' result := by
  cases result with
  | error e => exact h
  | ok a =>
    obtain ⟨hfaults, ha⟩ : faults = [] ∧ good a := h
    exact ⟨hfaults, hgood a ha⟩

/-- The result fails with an error exactly if this is the first of the faults. -/
lemma eq_error_iff (h : Decides faults good result) (e : Error) :
    result = .error e ↔ faults.head? = some e := by
  cases result with
  | error e' =>
    have h : faults.head? = some e' := h
    rw [h, Except.error.injEq, Option.some.injEq]
  | ok a =>
    obtain ⟨rfl, -⟩ : faults = [] ∧ good a := h
    simp

/-- There is a result exactly if there are no faults. -/
lemma exists_ok_iff (h : Decides faults good result) : (∃ a, result = .ok a) ↔ faults = [] := by
  cases result with
  | error e =>
    have h : faults.head? = some e := h
    constructor
    · rintro ⟨a, ha⟩
      simp at ha
    · rintro rfl
      simp at h
  | ok a =>
    obtain ⟨rfl, -⟩ : faults = [] ∧ good a := h
    simp

end Decides

end Error

/-! ## The stretch of a mapping -/

namespace Arena

/-- The places of the arena from `lo` up to `hi` hold the nodes of the mappings inside a mapping at
`depth`, and `slots` are its entries. The nodes in these slots have `cell` as the cell for their
parent, and all others have a parent in the stretch. -/
inductive Stores (store : Value → Value) (arena : Arena) :
    Option (Option ℕ) → ℕ → ℕ → Mapping → Table Slot → ℕ → Prop where
  /-- Without entries there are no nodes. -/
  | nil (cell : Option (Option ℕ)) (depth lo : ℕ) : Stores store arena cell depth lo [] [] lo
  /-- A value that is no mapping is stored in its slot. -/
  | leaf {cell : Option (Option ℕ)} {depth lo hi : ℕ} {key : String} {value : Value}
      {rest : Mapping} {slots : Table Slot} (hvalue : value.asMapping? = none)
      (hrest : Stores store arena cell depth lo rest slots hi) :
      Stores store arena cell depth lo ((key, value) :: rest)
        ((normalizeKey key, .value (store value)) :: slots) hi
  /-- A mapping is stored in a node, which comes right after the nodes inside it. -/
  | node {cell : Option (Option ℕ)} {depth lo id hi : ℕ} {key : String} {inner rest : Mapping}
      {entries slots : Table Slot} (hdepth : depth + 1 < maxLevel)
      (hinner : Stores store arena (some (some id)) (depth + 1) lo inner entries id)
      (hkeys : entries.keys.Nodup)
      (hdata : arena[id]? = some ⟨Level.ofDepth (depth + 1), entries, cell⟩)
      (hrest : Stores store arena cell depth (id + 1) rest slots hi) :
      Stores store arena cell depth lo ((key, .mapping inner) :: rest)
        ((normalizeKey key, .node id) :: slots) hi

variable {store : Value → Value} {arena arena' : Arena} {cell : Option (Option ℕ)}
  {depth lo mid hi : ℕ} {mapping more : Mapping} {slots slots' : Table Slot}

/-- A stretch ends where it starts or later. -/
lemma Stores.le (h : Stores store arena cell depth lo mapping slots hi) : lo ≤ hi := by
  induction h with
  | nil => exact Nat.le_refl _
  | leaf _ _ ih => exact ih
  | node _ _ _ _ _ ihInner ih => omega

/-- Places outside the stretch do not matter. -/
lemma Stores.congr (h : Stores store arena cell depth lo mapping slots hi)
    (harena : ∀ i, lo ≤ i → i < hi → arena'[i]? = arena[i]?) :
    Stores store arena' cell depth lo mapping slots hi := by
  induction h with
  | nil => exact .nil _ _ _
  | leaf hvalue _ ih => exact .leaf hvalue (ih harena)
  | node hdepth hinner hkeys hdata hrest ihInner ih =>
    have hlo := hinner.le
    have hhi := hrest.le
    refine .node hdepth (ihInner fun i _ _ => harena i (by omega) (by omega)) hkeys ?_
      (ih fun i _ _ => harena i (by omega) (by omega))
    rw [harena _ hlo (by omega), hdata]

/-- Two stretches, one right after the other, hold the nodes of both mappings. -/
lemma Stores.append (h : Stores store arena cell depth lo mapping slots mid)
    (hmore : Stores store arena cell depth mid more slots' hi) :
    Stores store arena cell depth lo (mapping ++ more) (slots ++ slots') hi := by
  induction h with
  | nil => exact hmore
  | leaf hvalue _ ih => exact .leaf hvalue (ih hmore)
  | node hdepth hinner hkeys hdata _ _ ih => exact .node hdepth hinner hkeys hdata (ih hmore)

/-- The keys of the slots are the normalized keys of the mapping. -/
lemma Stores.keys_eq (h : Stores store arena cell depth lo mapping slots hi) :
    slots.keys = mapping.normalized.keys := by
  induction h with
  | nil => rfl
  | leaf _ _ ih => simp [ih]
  | node _ _ _ _ _ _ ih => simp [ih]

/-- The node at a place of the arena is what is found there. -/
lemma data_of_getElem? {id : ℕ} {node : NodeData} (h : arena[id]? = some node) :
    arena.data id = node := by
  rw [data, Array.getD_eq_getD_getElem?, h, Option.getD_some]

/-- What a slot is described as is what its value is described as. -/
lemma Stores.describe_get? (h : Stores store arena cell depth lo mapping slots hi) (key : String) :
    (slots.get? key).map arena.describe =
      (mapping.normalized.get? key).map (Mapping.shown store) := by
  induction h with
  | nil => rfl
  | @leaf _ _ _ _ k value _ _ hvalue _ ih =>
    rw [Mapping.normalized_cons, Table.get?, Table.get?]
    split
    · cases value with
      | mapping inner => simp [Value.asMapping?] at hvalue
      | _ =>
        simp only [Option.map_some, Mapping.shown, describe]
        split <;> simp_all
    · exact ih
  | node _ hinner _ hdata _ _ ih =>
    rw [Mapping.normalized_cons, Table.get?, Table.get?]
    split
    · rw [Option.map_some, Option.map_some, describe, data_of_getElem? hdata, hinner.keys_eq,
        Mapping.shown]
    · exact ih

/-- The node `id` at `depth` stores a mapping, and the nodes inside it are those from `lo` on. -/
structure Holds (store : Value → Value) (arena : Arena) (parent : Option ℕ) (lo id depth : ℕ)
    (mapping : Mapping) : Prop where
  /-- The node is there. -/
  id_lt : id < arena.size
  /-- The node stands at one of the levels. -/
  depth_lt : depth < maxLevel
  /-- The level of the node is that of its depth. -/
  level_eq : (arena.data id).level = Level.ofDepth depth
  /-- The node has this parent. -/
  parent_eq : arena.parent? id = parent
  /-- The keys of the node are distinct. -/
  nodup_keys : (arena.data id).entries.keys.Nodup
  /-- The entries of the node store the mapping. -/
  stores : Stores store arena (some (some id)) depth lo mapping (arena.data id).entries id

/-- A node whose contents are in the stretch before it holds the mapping. -/
lemma holds_of_getElem? {parent : Option ℕ} {id : ℕ}
    (h : arena[id]? = some ⟨Level.ofDepth depth, slots, some parent⟩) (hdepth : depth < maxLevel)
    (hkeys : slots.keys.Nodup)
    (hstores : Stores store arena (some (some id)) depth lo mapping slots id) :
    Holds store arena parent lo id depth mapping := by
  have hdata := data_of_getElem? h
  refine ⟨(Array.getElem?_eq_some_iff.mp h).1, hdepth, ?_, ?_, ?_, ?_⟩
  · rw [hdata]
  · rw [parent?, hdata, Option.join_some]
  · rw [hdata]
    exact hkeys
  · rw [hdata]
    exact hstores

/-! ## Closing a node -/

/-- An empty cell is written, and everything else in the arena stays as it is. -/
lemma assignParent_of_empty {id : ℕ} {level : Level} {entries : Table Slot}
    (h : arena[id]? = some ⟨level, entries, none⟩) (parent : Option ℕ) :
    ∃ arena', arena.assignParent id parent = .ok arena' ∧ arena'.size = arena.size ∧
      (∀ i, i ≠ id → arena'[i]? = arena[i]?) ∧
      arena'[id]? = some ⟨level, entries, some parent⟩ := by
  obtain ⟨hid, hnode⟩ := Array.getElem?_eq_some_iff.mp h
  refine ⟨arena.set id ⟨level, entries, some parent⟩, ?_, Array.size_set hid, ?_, ?_⟩
  · simp [assignParent, hid, hnode]
  · intro i hi
    exact Array.getElem?_set_ne hid hi.symm
  · simp

/-- **Linking the children** of a node under construction: the cells are empty, so each of them is
assigned, and the rest of the stretch stays as it is.

**Proof sketch.** Induction on the stretch. The arena changes while the entries are linked one after
the other, so the statement is about every arena with the same stretch. -/
lemma Stores.adopt (h : Stores store arena cell depth lo mapping slots hi) (hcell : cell = none)
    (parent : ℕ) : ∀ arena₁ : Arena, (∀ i, lo ≤ i → i < hi → arena₁[i]? = arena[i]?) →
      ∃ arena', adopt parent (children slots) arena₁ = .ok arena' ∧ arena'.size = arena₁.size ∧
        (∀ i, i < lo ∨ hi ≤ i → arena'[i]? = arena₁[i]?) ∧
        Stores store arena' (some (some parent)) depth lo mapping slots hi := by
  induction h with
  | nil => exact fun arena₁ _ => ⟨arena₁, rfl, rfl, fun _ _ => rfl, .nil _ _ _⟩
  | leaf hvalue _ ih =>
    intro arena₁ harena
    obtain ⟨arena', hadopt, hsize, hframe, hstores⟩ := ih hcell arena₁ harena
    exact ⟨arena', hadopt, hsize, hframe, .leaf hvalue hstores⟩
  | @node _ _ lo id hi _ _ _ _ _ hdepth hinner hkeys hdata hrest _ ih =>
    intro arena₁ harena
    subst hcell
    have hlo := hinner.le
    have hhi := hrest.le
    have hcell : arena₁[id]? = some _ := (harena id (by omega) (by omega)).trans hdata
    obtain ⟨arena₂, hassign, hsize₂, hframe₂, hid⟩ := assignParent_of_empty hcell (some parent)
    obtain ⟨arena', hadopt, hsize, hframe, hstores⟩ := ih rfl arena₂ fun i _ _ =>
      (hframe₂ i (by omega)).trans (harena i (by omega) (by omega))
    refine ⟨arena', ?_, hsize.trans hsize₂, fun i _ => ?_, ?_⟩
    · show (arena₁.assignParent id (some parent) >>= Arena.adopt parent (children _)) = _
      rw [hassign]
      exact hadopt
    · exact (hframe i (by omega)).trans (hframe₂ i (by omega))
    · refine .node hdepth (hinner.congr fun i _ _ => ?_) hkeys ?_ hstores
      · rw [hframe i (by omega), hframe₂ i (by omega), harena i (by omega) (by omega)]
      · rw [hframe id (by omega), hid]

/-- **Closing a node** links its children to it, and the places before them stay as they are. -/
lemma Stores.close (h : Stores store arena none depth lo mapping slots arena.size)
    (level : Level) :
    ∃ arena', arena.close level slots = .ok (arena', arena.size) ∧
      arena'.size = arena.size + 1 ∧ (∀ i < lo, arena'[i]? = arena[i]?) ∧
      arena'[arena.size]? = some ⟨level, slots, none⟩ ∧
      Stores store arena' (some (some arena.size)) depth lo mapping slots arena.size := by
  have hlo := h.le
  have hpush : ∀ i < arena.size, (arena.push ⟨level, slots, none⟩)[i]? = arena[i]? := by
    intro i hi
    rw [Array.getElem?_push, if_neg (by omega)]
  obtain ⟨arena', hadopt, hsize, hframe, hstores⟩ :=
    h.adopt rfl arena.size (arena.push ⟨level, slots, none⟩) fun i _ hi => hpush i hi
  refine ⟨arena', ?_, ?_, fun i hi => ?_, ?_, hstores⟩
  · rw [Arena.close, hadopt]
    rfl
  · rw [hsize, Array.size_push]
  · rw [hframe i (.inl hi), hpush i (by omega)]
  · rw [hframe _ (.inr (Nat.le_refl _)), Array.getElem?_push_size]

end Arena

/-! ## Building a tree -/

open Mapping (faults faultsAt overflow clash)
open Arena (Stores)

variable {store : Value → Value} (label : String)

/-- **Claiming a key** fails with the clash of that key. -/
lemma Arena.Stores.decides_claim {arena : Arena} {cell : Option (Option ℕ)} {depth lo hi : ℕ}
    {earlier : Mapping} {slots : Table Slot}
    (h : Stores store arena cell depth lo earlier slots hi) (path : List String) (key : String) :
    Error.Decides (clash store path depth earlier key) (fun _ => True)
      (arena.claim (Level.ofDepth depth) path slots key) := by
  have hdescribe := h.describe_get? (normalizeKey key)
  unfold clash Arena.claim
  cases hslot : slots.get? (normalizeKey key) with
  | none =>
    have hnone : earlier.normalized.get? (normalizeKey key) = none := by
      simpa [hslot] using hdescribe.symm
    rw [hnone]
    exact ⟨rfl, trivial⟩
  | some existing =>
    obtain ⟨value, hvalue, hshown⟩ : ∃ value, earlier.normalized.get? (normalizeKey key) = some value ∧
        Mapping.shown store value = arena.describe existing := by
      simpa [hslot, Option.map_eq_some_iff] using hdescribe.symm
    simp only [hvalue, hshown, Error.Decides, List.head?_cons]

namespace Tree

/-- A value that is no mapping is placed in its stored form, without a node. -/
lemma place_leaf (path : List String) (depth : ℕ) (arena : Arena) {value : Value}
    (hvalue : value.asMapping? = none) :
    place store label path depth arena value = .ok (arena, .value (store value)) := by
  cases value with
  | mapping inner => simp [Value.asMapping?] at hvalue
  | _ => rfl

/-- A mapping is placed as a new node with its entries. -/
lemma place_node (path : List String) (depth : ℕ) (arena : Arena) (inner : Mapping) :
    place store label path depth arena (.mapping inner) =
      (openNode (headerOf label path) depth fun _ =>
        placeAll store label path depth arena [] inner).map fun (arena, id) => (arena, .node id) := by
  rw [place]

/-- **Opening a node** fails if it stands too deep, or else as its contents do. -/
lemma decides_openNode (path : List String) (depth : ℕ) (mapping : Mapping) (arena : Arena)
    (hcontents : Error.Decides (faults store label path depth [] mapping)
      (fun result => (∀ i < arena.size, result.1[i]? = arena[i]?) ∧
        Stores store result.1 none depth arena.size mapping result.2 result.1.size)
      (placeAll store label path depth arena [] mapping)) :
    Error.Decides (overflow label path depth ++ faults store label path depth [] mapping)
      (fun result => depth < maxLevel ∧ (∀ i < arena.size, result.1[i]? = arena[i]?) ∧
        result.1.size = result.2 + 1 ∧ ∃ entries, entries.keys.Nodup ∧
          result.1[result.2]? = some ⟨Level.ofDepth depth, entries, none⟩ ∧
          Stores store result.1 (some (some result.2)) depth arena.size mapping entries result.2)
      (openNode (headerOf label path) depth fun _ =>
        placeAll store label path depth arena [] mapping) := by
  unfold openNode overflow
  split
  · rename_i hdepth
    generalize placeAll store label path depth arena [] mapping = result at hcontents
    cases result with
    | error e => exact hcontents
    | ok result =>
      obtain ⟨hfaults, hframe, hstores⟩ := hcontents
      have hkeys := (Mapping.of_faults_eq_nil store label path depth mapping [] (by simp)
        hfaults).1
      rw [List.nil_append, ← hstores.keys_eq] at hkeys
      obtain ⟨arena', hclose, hsize, hframe', hnode, hstores'⟩ :=
        hstores.close (Level.ofDepth depth)
      show Error.Decides _ _ (result.1.close (Level.ofDepth depth) result.2)
      rw [hclose]
      refine ⟨hfaults, hdepth, fun i hi => ?_, hsize, result.2, hkeys, hnode, hstores'⟩
      rw [hframe' i hi, hframe i hi]
  · rfl

/-- **The run over the entries** of a mapping: it fails with their first fault, or stores them after
the entries that are there already.

**Proof sketch.** Induction on the entries and on those of the mappings inside. The entries that are
there are described by the stretch that stores them, which later nodes leave alone. -/
lemma decides_placeAll (mapping : Mapping) :
    ∀ (path : List String) (depth lo : ℕ) (arena : Arena) (earlier : Mapping) (slots : Table Slot),
      Stores store arena none depth lo earlier slots arena.size →
      Error.Decides (faults store label path depth earlier mapping)
        (fun result => (∀ i < lo, result.1[i]? = arena[i]?) ∧
          Stores store result.1 none depth lo (earlier ++ mapping) result.2 result.1.size)
        (placeAll store label path depth arena slots mapping) := by
  induction mapping using Mapping.induction with
  | nil =>
    intro path depth lo arena earlier slots h
    rw [Mapping.faults_nil, placeAll]
    exact ⟨rfl, fun _ _ => rfl, by simpa using h⟩
  | leaf key value rest hvalue ih =>
    intro path depth lo arena earlier slots h
    have hentry : Stores store arena none depth arena.size [(key, value)] _ arena.size :=
      .leaf hvalue (.nil _ _ _)
    have hnext := ih path depth lo arena _ _ (h.append hentry)
    rw [List.append_assoc, List.singleton_append] at hnext
    rw [Mapping.faults_leaf store label path depth earlier key hvalue, placeAll,
      place_leaf label (path ++ [key]) (depth + 1) arena hvalue]
    exact (h.decides_claim path key).bind fun _ _ => hnext
  | node key inner rest ihInner ih =>
    intro path depth lo arena earlier slots h
    have hlo := h.le
    have hopen := decides_openNode label (path ++ [key]) (depth + 1) inner arena
      (ihInner (path ++ [key]) (depth + 1) arena.size arena [] [] (.nil _ _ _))
    rw [Mapping.faults_node, placeAll, place_node, List.append_assoc]
    refine hopen.bind_map ?_
    rintro ⟨arena', id⟩ ⟨hdepth, hframe, hsize, entries, hkeys, hnode, hinner⟩
    have hstores : Stores store arena' none depth lo earlier slots arena.size :=
      h.congr fun i _ hi => hframe i hi
    have hentry : Stores store arena' none depth arena.size [(key, .mapping inner)]
        [(normalizeKey key, .node id)] arena'.size := by
      rw [hsize]
      exact .node hdepth hinner hkeys hnode (.nil _ _ _)
    have hnext := ih path depth lo arena' _ _ (hstores.append hentry)
    rw [List.append_assoc, List.singleton_append] at hnext
    refine (hstores.decides_claim path key).bind fun _ _ => hnext.mono ?_
    rintro ⟨arena'', slots'⟩ ⟨hframe', hstores'⟩
    exact ⟨fun i hi => (hframe' i hi).trans (hframe i (by omega)), hstores'⟩

/-- The tree stores a mapping whose top stands at `depth`, and nothing else. -/
structure Represents (tree : Tree) (treatment : Treatment) (depth : ℕ) (mapping : Mapping) :
    Prop where
  /-- The tree treats its values as it was asked to. -/
  treatment_eq : tree.treatment = treatment
  /-- The root is the last node. -/
  size_eq : tree.nodes.size = tree.root + 1
  /-- The root stores the mapping in all the places before it. -/
  holds : Arena.Holds treatment.store tree.nodes none 0 tree.root depth mapping

/-- **Building a tree** fails with the first fault of the mapping, or else makes a tree that stores
the mapping.

**Proof sketch.** The root is opened like every other node, over an empty arena; after that it gets
its place as the topmost node. -/
theorem decides_build (treatment : Treatment) (mapping : Mapping) (depth : ℕ) :
    Error.Decides (faultsAt treatment.store label depth mapping)
      (fun tree => tree.Represents treatment depth mapping)
      (build treatment mapping label depth) := by
  have hopen : Error.Decides (faultsAt treatment.store label depth mapping) _
      (openNode label depth fun _ => placeAll treatment.store label [] depth #[] [] mapping) :=
    decides_openNode label [] depth mapping #[]
      (decides_placeAll label mapping [] depth 0 #[] [] [] (.nil _ _ _))
  rw [← List.append_nil (faultsAt _ _ _ _)]
  refine hopen.bind ?_
  rintro ⟨arena, root⟩ ⟨hdepth, -, hsize, entries, hkeys, hnode, hstores⟩
  obtain ⟨nodes, hassign, hsize', hframe, hroot⟩ := Arena.assignParent_of_empty hnode none
  simp only [hassign]
  refine ⟨rfl, rfl, hsize'.trans hsize, Arena.holds_of_getElem? hroot hdepth hkeys ?_⟩
  exact hstores.congr fun i _ hi => hframe i (Nat.ne_of_lt hi)

/-- A tree that was built stores its mapping. -/
lemma represents_of_build {treatment : Treatment} {mapping : Mapping} {label : String} {depth : ℕ}
    {tree : Tree} (h : build treatment mapping label depth = .ok tree) :
    tree.Represents treatment depth mapping := by
  have hdecides := decides_build label treatment mapping depth
  rw [h] at hdecides
  exact hdecides.2

end Tree

end ConfigTree
