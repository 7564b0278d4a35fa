set_option relaxedAutoImplicit false
set_option autoImplicit false

/-!
# Tables in insertion order

A table maps keys to contents and remembers the order in which the keys were first put in.

## Main definitions

* `ConfigTree.Table` — a list of keys with their contents, each key at most once.
* `ConfigTree.Table.get?` — the content under a key.
* `ConfigTree.Table.put` — the table with a new content under a key.
* `ConfigTree.Table.keys` — the keys in insertion order.
* `ConfigTree.Table.mapContents` — the table with its contents translated.

## Main results

* `ConfigTree.Table.get?_eq_some_iff_mem` — a look-up finds the entries, if no key occurs twice.
-/

namespace ConfigTree

/-- Keys with their contents, in insertion order. -/
abbrev Table (α : Type) := List (String × α)

namespace Table

variable {α β : Type}

/-- The content under `key`. -/
def get? : Table α → String → Option α
  | [], _ => none
  | (k, content) :: rest, key => if k = key then some content else get? rest key

/-- The table with `content` under `key`. A key that is present keeps its place. -/
def put : Table α → String → α → Table α
  | [], key, content => [(key, content)]
  | (k, old) :: rest, key, content =>
    if k = key then (k, content) :: rest else (k, old) :: put rest key content

/-- The keys in insertion order. -/
def keys (table : Table α) : List String :=
  table.map Prod.fst

/-- The table with its contents translated. -/
def mapContents (f : α → β) (table : Table α) : Table β :=
  table.map fun (key, content) => (key, f content)

/-- The empty table has no keys. -/
@[simp] theorem keys_nil : keys ([] : Table α) = [] := rfl

/-- The first key is the one of the first entry. -/
@[simp] theorem keys_cons (entry : String × α) (rest : Table α) :
    keys (entry :: rest) = entry.1 :: keys rest := rfl

/-- The keys of one table after another stand one after the other. -/
@[simp] theorem keys_append (table more : Table α) :
    keys (table ++ more) = keys table ++ keys more := List.map_append

/-- Other contents leave the keys as they are. -/
@[simp] theorem keys_mapContents (f : α → β) (table : Table α) :
    (table.mapContents f).keys = table.keys := by
  simp [mapContents, keys, Function.comp_def]

/-- A key finds the other form of what it found before. -/
@[simp] theorem get?_mapContents (f : α → β) (table : Table α) (key : String) :
    (table.mapContents f).get? key = (table.get? key).map f := by
  induction table with
  | nil => rfl
  | cons entry rest ih =>
    obtain ⟨first, content⟩ := entry
    show (if first = key then some (f content) else (mapContents f rest).get? key) = _
    rw [get?, ih]
    split <;> rfl

/-- The key of an entry is a key. -/
theorem mem_keys_of_mem {table : Table α} {key : String} {content : α}
    (h : (key, content) ∈ table) : key ∈ table.keys :=
  List.mem_map.mpr ⟨_, h, rfl⟩

/-- A look-up fails exactly for the keys that are not there. -/
theorem get?_eq_none_iff {table : Table α} {key : String} :
    table.get? key = none ↔ key ∉ table.keys := by
  induction table with
  | nil => simp [get?]
  | cons entry rest ih =>
    obtain ⟨k, content⟩ := entry
    by_cases hk : k = key
    · simp [get?, hk]
    · simp [get?, hk, ih, Ne.symm hk]

/-- What a look-up finds is there. -/
theorem mem_of_get? {table : Table α} {key : String} {content : α}
    (h : table.get? key = some content) : (key, content) ∈ table := by
  induction table with
  | nil => simp [get?] at h
  | cons entry rest ih =>
    obtain ⟨k, first⟩ := entry
    by_cases hk : k = key
    · simp only [get?, hk, if_true, Option.some.injEq] at h
      simp [hk, h]
    · simp only [get?, hk, if_false] at h
      exact List.mem_cons_of_mem _ (ih h)

/-- A look-up finds the entries, if no key occurs twice. -/
theorem get?_eq_some_iff_mem {table : Table α} (hkeys : table.keys.Nodup) {key : String}
    {content : α} : table.get? key = some content ↔ (key, content) ∈ table := by
  refine ⟨mem_of_get?, ?_⟩
  induction table with
  | nil => simp
  | cons entry rest ih =>
    obtain ⟨k, first⟩ := entry
    rw [keys_cons, List.nodup_cons] at hkeys
    intro h
    rcases List.mem_cons.mp h with h | h
    · obtain ⟨rfl, rfl⟩ : key = k ∧ content = first := by simpa using h
      simp [get?]
    · have hne : k ≠ key := by
        rintro rfl
        exact hkeys.1 (mem_keys_of_mem h)
      rw [get?, if_neg hne]
      exact ih hkeys.2 h

end Table

end ConfigTree
