import ConfigTree.Proofs.Ini.Placement

set_option relaxedAutoImplicit false
set_option autoImplicit false

/-!
# Merging documents

A document is merged into another one section by section: the subsections of a section that both of
them have stand after each other, and the sections of the second document alone stand at the end.
This is what grouping does to blocks after other blocks.

## Main definitions

* `ConfigTree.Table.merge` — a table with another one merged into it.
* `ConfigTree.Mapping.merge` — a mapping with another one merged into it.
* `ConfigTree.Mapping.places` — the pairs of a section and a subsection.

## Main results

* `ConfigTree.Table.map_merge` — contents may be translated before or after tables are merged.
* `ConfigTree.Ini.Document.grouped_append` — grouping blocks after other blocks merges documents.
* `ConfigTree.Ini.Document.toMapping_grouped_append` — the same for the mappings of documents.
* `ConfigTree.Ini.Document.mem_places_toMapping_grouped` — the places of grouped blocks.
-/

namespace ConfigTree

namespace Table

variable {α β : Type}

/-! ## Merging tables -/

/-- The table with another one merged into it: what both have under one key is joined and stands where
it is in the first table, and the entries that only the second one has stand at the end. -/
def merge (join : α → α → α) (table more : Table α) : Table α :=
  (table.map fun (key, content) => (key, ((more.get? key).map (join content)).getD content)) ++
    more.filter fun (key, _) => key ∉ table.keys

/-- **Contents may be translated** before or after tables are merged. -/
lemma map_merge {join : α → α → α} {join' : β → β → β} {f : α → β}
    (h : ∀ a b, f (join a b) = join' (f a) (f b)) (table more : Table α) :
    (table.merge join more).mapContents f =
      (table.mapContents f).merge join' (more.mapContents f) := by
  have hjoined : ∀ key content, f (((more.get? key).map (join content)).getD content) =
      (((more.mapContents f).get? key).map (join' (f content))).getD (f content) := by
    intro key content
    rw [get?_mapContents]
    cases more.get? key <;> simp [h]
  rw [merge, merge, keys_mapContents]
  simp [mapContents, hjoined, List.filter_map, Function.comp_def]

/-- Tables over given keys are merged key by key. -/
lemma merge_tabulate (join : α → α → α) (keys more : List String) (f g : String → α) :
    merge join (tabulate keys f) (tabulate more g) =
      tabulate keys (fun key => if key ∈ more then join (f key) (g key) else f key) ++
        tabulate (more.filter fun key => key ∉ keys) g := by
  rw [merge, keys_tabulate]
  congr 1
  · rw [tabulate, tabulate, List.map_map]
    refine List.map_congr_left fun key _ => ?_
    simp only [Function.comp_apply, Prod.mk.injEq, true_and]
    rw [← tabulate, get?_tabulate]
    split <;> rfl
  · simp [tabulate, List.filter_map, Function.comp_def]

end Table

namespace Value

/-- A mapping with the entries of another one after its own; other values stay as they are. -/
def joined : Value → Value → Value
  | .mapping entries, .mapping more => .mapping (entries ++ more)
  | value, _ => value

end Value

namespace Mapping

/-- The mapping with another one merged into it: mappings that both have under one key are joined,
and the entries that only the second one has stand at the end. -/
def merge (mapping more : Mapping) : Mapping :=
  Table.merge Value.joined mapping more

/-- The keys of the mapping, each with the keys of the mapping under it. -/
def places (mapping : Mapping) : List (String × String) :=
  mapping.flatMap fun (sectionName, value) =>
    (value.asMapping?.getD []).keys.map (Prod.mk sectionName)

end Mapping

/-- New subsections go to the section that is there, and a new section goes to the end. -/
example :
    Mapping.merge [("s", .mapping [("x", .null)]), ("t", .mapping [])]
        [("u", .mapping []), ("s", .mapping [("y", .null)])] =
      [("s", .mapping [("x", .null), ("y", .null)]), ("t", .mapping []), ("u", .mapping [])] := by
  rfl

namespace Ini.Document

/-! ## Merging documents -/

/-- Names that stand after others are new if they are not among these. -/
lemma eraseDups_append_eq_filter (names more : List String) :
    (names ++ more).eraseDups =
      names.eraseDups ++ more.eraseDups.filter fun name => name ∉ names.eraseDups := by
  induction more using List.reverseRecOn with
  | nil => simp
  | append_singleton more name ih =>
    rw [← List.append_assoc, eraseDups_append_singleton, eraseDups_append_singleton, ih]
    by_cases hmem : name ∈ names
    · by_cases hmore : name ∈ more <;> simp [hmem, hmore]
    · by_cases hmore : name ∈ more <;> simp [hmem, hmore]

/-- The blocks of a section among blocks after other blocks. -/
lemma under_append (placements more : List Placement) (sectionName : String) :
    under (placements ++ more) sectionName =
      under placements sectionName ++ under more sectionName := by
  simp [under]

/-- **Grouping blocks after other blocks** merges the documents of both.

**Proof sketch.** The sections of all blocks are those of the first ones and the new ones among those
of the others. Under a section stand the blocks of the first kind and then those of the second kind,
of which there are none if the section is not there. -/
lemma grouped_append (placements more : List Placement) :
    grouped (placements ++ more) =
      Table.merge (· ++ ·) (grouped placements) (grouped more) := by
  rw [grouped, grouped, grouped, Table.merge_tabulate, List.map_append, eraseDups_append_eq_filter,
    Table.tabulate, List.map_append]
  congr 1
  · refine Table.tabulate_congr fun name _ => ?_
    rw [under_append]
    split
    · rfl
    · rename_i hname
      rw [List.mem_eraseDups] at hname
      rw [under_of_not_mem hname, List.append_nil]
  · refine Table.tabulate_congr fun name hname => ?_
    have hnew : name ∉ placements.map Placement.sectionName := by
      simpa using (List.mem_filter.mp hname).2
    rw [under_append, under_of_not_mem hnew, List.nil_append]

/-- The value of a section: the mapping of its subsections, which are mappings of their options. -/
def sectionValue (subsections : Table (Table String)) : Value :=
  .mapping (subsections.mapContents fun options => .mapping (options.mapContents .string))

/-- The mapping of a document has the values of its sections. -/
lemma toMapping_eq (document : Document) :
    document.toMapping = Table.mapContents sectionValue document := rfl

/-- The value of a section with further subsections is joined from the values of both. -/
lemma sectionValue_append (subsections more : Table (Table String)) :
    sectionValue (subsections ++ more) = (sectionValue subsections).joined (sectionValue more) := by
  simp [sectionValue, Value.joined, Table.mapContents]

/-- The mapping of grouped blocks after other blocks. -/
lemma toMapping_grouped_append (placements more : List Placement) :
    (grouped (placements ++ more)).toMapping =
      (grouped placements).toMapping.merge (grouped more).toMapping := by
  rw [grouped_append]
  exact Table.map_merge sectionValue_append _ _

/-- The places in the mapping of a document are those of its subsections. -/
lemma mem_places_toMapping {document : Document} {sectionName subsectionName : String} :
    (sectionName, subsectionName) ∈ document.toMapping.places ↔
      ∃ subsections, (sectionName, subsections) ∈ document ∧
        subsectionName ∈ subsections.keys := by
  have hkeys : ∀ subsections,
      ((sectionValue subsections).asMapping?.getD []).keys = subsections.keys := by
    intro subsections
    rw [sectionValue, Value.asMapping?, Option.getD_some, Table.keys_mapContents]
  simp [Mapping.places, toMapping_eq, Table.mapContents, List.mem_flatMap, hkeys]

/-- **The places of grouped blocks** are those that their headers name. -/
lemma mem_places_toMapping_grouped {placements : List Placement} {place : String × String} :
    place ∈ (grouped placements).toMapping.places ↔ place ∈ placements.map Placement.pair := by
  obtain ⟨sectionName, subsectionName⟩ := place
  rw [mem_places_toMapping, ← mem_keys_under]
  constructor
  · rintro ⟨subsections, hmem, hsubsection⟩
    obtain ⟨-, rfl⟩ := mem_grouped_iff.mp hmem
    exact hsubsection
  · intro hmem
    refine ⟨_, mem_grouped_iff.mpr ⟨?_, rfl⟩, hmem⟩
    by_contra hname
    rw [under_of_not_mem hname] at hmem
    simp at hmem

end Ini.Document

end ConfigTree
