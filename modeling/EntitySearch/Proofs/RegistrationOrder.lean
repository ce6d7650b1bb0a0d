import Mathlib.Data.List.Sort
import EntitySearch.Proofs.BatchRegistration
import EntitySearch.Proofs.ByteOrder
import EntitySearch.Proofs.ConfigLines

/-! The order in which a batch is registered leaves no trace. A registry is asked by name, and what
it lists is in the order of the bytes of the names. -/
namespace EntitySearch.Registry

/-- Equal listings and lookups, and equal compilation of every request. -/
structure Indistinguishable (registry other : Registry) : Prop where
  entities : registry.entities = other.entities
  describe : registry.describe = other.describe
  lookup : ∀ entity, registry.lookup entity = other.lookup entity
  assemble : ∀ entity filters options,
    registry.assemble entity filters options = other.assemble entity filters options
  assembleJson : ∀ entity filters options,
    registry.assembleJson entity filters options = other.assembleJson entity filters options

def Describes (registry : Registry) (entity line : String) : Prop :=
  ∃ config, registry.get? entity = some config ∧ config.entity = entity ∧ config.describe = line

/-- Specification of a listing: registered names in byte order, as sorting any enumeration of them
gives, and one line for each in that order. Lines are distinct unless the name of an entity has a
tab. -/
structure Listing (registry : Registry) : Prop where
  increasing : registry.entities.Pairwise fun first second => utf8 first < utf8 second
  registered : ∀ entity, entity ∈ registry.entities ↔ registry.contains entity = true
  sorted : ∀ found : List String, found.Nodup →
    (∀ entity, entity ∈ found ↔ registry.contains entity = true) →
      found.mergeSort (fun first second => utf8 first ≤ utf8 second) = registry.entities
  lines : List.Forall₂ registry.Describes registry.entities registry.describe
  distinct : (∀ entity ∈ registry.entities, '\t' ∉ entity.toList) → registry.describe.Nodup

variable {registry other : Registry} {pairs others : List (String × Declaration)}
  {configs : List EntityConfig} {count : Nat}

section Listing

/-- Names are listed in strictly increasing order, in particular without repetition. -/
theorem entities_pairwise_lt (registry : Registry) : registry.entities.Pairwise (· < ·) := by
  have hSorted := List.pairwise_mergeSort' (· ≤ ·) registry.configs.keys
  apply hSorted.imp₂ (fun _ _ => lt_of_le_of_ne)
  exact nodup_entities registry

/-- Sorting by bytes any duplicate-free enumeration of the names gives `entities`. The order in
which they are found does not matter. -/
theorem mergeSort_utf8_eq {found : List String} (hDistinct : found.Nodup)
    (h : ∀ entity, entity ∈ found ↔ registry.contains entity = true) :
    found.mergeSort (fun first second => utf8 first ≤ utf8 second) = registry.entities := by
  have hOrder : ∀ first second, utf8 first ≤ utf8 second ↔ first ≤ second := by
    intro first second
    rw [← List.not_lt, ← not_lt, utf8_lt_iff]
  have hSame : found.Perm registry.configs.keys := by
    apply (List.perm_ext_iff_of_nodup hDistinct Std.TreeMap.nodup_keys).mpr
    intro entity
    rw [h, mem_keys_iff]
  simp only [hOrder]
  have hSorted := List.pairwise_mergeSort' (· ≤ ·) found
  have hKeys := List.pairwise_mergeSort' (· ≤ ·) registry.configs.keys
  apply List.Perm.eq_of_pairwise' hSorted hKeys
  exact ((List.mergeSort_perm found _).trans hSame).trans (List.mergeSort_perm _ _).symm

/-- One line for each name, in the order of the names, for the configuration stored there. -/
theorem Valid.lines (h : registry.Valid) :
    List.Forall₂ registry.Describes registry.entities registry.describe := by
  have hFound : ∀ entity ∈ registry.entities,
      ∃ line, (registry.get? entity).map (·.describe) = some line := by
    intro entity hEntity
    obtain ⟨config, hConfig⟩ := contains_iff_exists.mp (mem_entities_iff.mp hEntity)
    exact ⟨config.describe, by rw [hConfig, Option.map_some]⟩
  apply (forall₂_filterMap hFound).imp
  intro entity line hLine
  obtain ⟨config, hConfig, hDescribe⟩ := Option.map_eq_some_iff.mp hLine
  exact ⟨config, hConfig, h.keyed entity config hConfig, hDescribe⟩

/-- No two lines of a valid registry are equal, provided no entity has a tab in its name. -/
theorem Valid.nodup_describe (h : registry.Valid)
    (hTabs : ∀ entity ∈ registry.entities, '\t' ∉ entity.toList) : registry.describe.Nodup := by
  rw [Registry.describe, List.Nodup, List.pairwise_filterMap]
  apply (nodup_entities registry).imp_of_mem
  intro first second hFirst hSecond hDistinct line hLine other hOther hSame
  obtain ⟨config, hConfig, rfl⟩ := Option.map_eq_some_iff.mp hLine
  obtain ⟨twin, hTwin, rfl⟩ := Option.map_eq_some_iff.mp hOther
  have hEntity := h.keyed first config hConfig
  have hTwinEntity := h.keyed second twin hTwin
  apply hDistinct
  rw [← hEntity, ← hTwinEntity]
  apply EntityConfig.entity_eq_of_describe_eq _ _ hSame
  · exact hEntity ▸ hTabs first hFirst
  · exact hTwinEntity ▸ hTabs second hSecond

/-- Every valid registry satisfies the full specification of listings. -/
theorem Valid.listing (h : registry.Valid) : registry.Listing where
  increasing := (entities_pairwise_lt registry).imp utf8_lt_iff.mpr
  registered _ := mem_entities_iff
  sorted _ := mergeSort_utf8_eq
  lines := h.lines
  distinct := h.nodup_describe

end Listing

section Permutation

/-- The list of names depends on lookups only, not on how the registry came about. -/
theorem entities_eq_of_get? (h : ∀ entity, registry.get? entity = other.get? entity) :
    registry.entities = other.entities := by
  -- a strictly increasing list is told by its members
  apply (entities_pairwise_lt registry).eq_of_mem_iff (entities_pairwise_lt other)
  intro entity
  simp only [mem_entities_iff, contains_iff_exists, h]

/-- Equal lookups make registries indistinguishable by listing, description and compilation. -/
theorem Indistinguishable.of_get? (h : ∀ entity, registry.get? entity = other.get? entity) :
    registry.Indistinguishable other where
  entities := entities_eq_of_get? h
  describe := by simp only [Registry.describe, entities_eq_of_get? h, h]
  lookup entity := by simp only [Registry.lookup, h]
  assemble entity := assemble_congr (h entity)
  assembleJson entity filters options := by
    simp only [Registry.assembleJson, assemble_congr (h entity)]

/-- Membership in the configurations of a batch, which does not depend on the order of its
declarations. -/
theorem Configures.mem_iff {config : EntityConfig} (h : Configures pairs configs) :
    config ∈ configs ↔ ∃ pair ∈ pairs, EntityConfig.ofDeclaration pair.1 pair.2 = .ok config := by
  induction h with
  | nil => simp
  | cons hFirst _ ih =>
      rw [List.mem_cons, ih, List.exists_mem_cons_iff, hFirst, Except.ok.injEq]
      exact or_congr_left eq_comm

/-- Acceptance of a batch is invariant under permutation. -/
theorem Accepts.perm (h : registry.Accepts pairs) (hPerm : pairs.Perm others) :
    registry.Accepts others where
  admissible pair hPair := h.admissible pair (hPerm.mem_iff.mpr hPair)
  distinct := (hPerm.map (·.1)).nodup_iff.mp h.distinct
  free pair hPair := h.free pair (hPerm.mem_iff.mpr hPair)

/-- Success and count of a batch do not depend on its order. -/
theorem registerAll_eq_ok_iff_of_perm (hPerm : pairs.Perm others) :
    (registry.registerAll pairs).2 = .ok count ↔ (registry.registerAll others).2 = .ok count := by
  have hAccepts : registry.Accepts pairs ↔ registry.Accepts others :=
    ⟨fun h => h.perm hPerm, fun h => h.perm hPerm.symm⟩
  rw [registerAll_eq_ok_iff, registerAll_eq_ok_iff, hAccepts, hPerm.length_eq]

/-- After a batch that succeeds, lookup gives what was stored before or what one of the declarations
makes. -/
theorem get?_registerAll_eq_some_iff {entity : String} {config : EntityConfig}
    (h : (registry.registerAll pairs).2 = .ok count) :
    (registry.registerAll pairs).1.get? entity = some config ↔
      registry.get? entity = some config ∨
        ∃ pair ∈ pairs, EntityConfig.ofDeclaration pair.1 pair.2 = .ok config ∧
          config.entity = entity := by
  obtain ⟨_, configs, hConfigs, hExtended⟩ := extendedBy_of_registerAll h
  rw [hExtended.get?, hConfigs.mem_iff]
  simp only [exists_and_right, ← and_assoc]

/-- The registries after a successful batch and a permutation of it are indistinguishable. -/
theorem indistinguishable_of_perm (hPerm : pairs.Perm others)
    (h : (registry.registerAll pairs).2 = .ok count) :
    (registry.registerAll pairs).1.Indistinguishable (registry.registerAll others).1 := by
  have hOthers := (registerAll_eq_ok_iff_of_perm hPerm).mp h
  apply Indistinguishable.of_get?
  intro entity
  apply Option.ext
  intro config
  rw [get?_registerAll_eq_some_iff h, get?_registerAll_eq_some_iff hOthers]
  simp only [hPerm.mem_iff]

end Permutation

/-- Batches that are permutations of one another succeed together, and then with indistinguishable
registries. Every reachable registry lists its names in byte order, whatever calls led to it, with
one line for each. -/
theorem registration_order_unobservable (registry : Registry) (h : pairs.Perm others) :
    (∀ count, (registry.registerAll pairs).2 = .ok count ↔
      (registry.registerAll others).2 = .ok count) ∧
    (∀ count, (registry.registerAll pairs).2 = .ok count →
      (registry.registerAll pairs).1.Indistinguishable (registry.registerAll others).1) ∧
    ∀ reached : Registry, reached.Reachable → reached.Listing := by
  refine ⟨fun count => registerAll_eq_ok_iff_of_perm h, ?_, ?_⟩
  · intro count hCount
    exact indistinguishable_of_perm h hCount
  · intro reached hReached
    exact hReached.valid.listing

/-- Names whose sorted order is not the declared one. The accented name has the largest first
byte. -/
def labels : List (String × Declaration) :=
  [("été", Declaration.empty.text "titre"), ("tags", Declaration.empty.keyword "name"),
    ("notes", Declaration.empty.textWithPrefixes "body")]

/-- A batch and its reverse give indistinguishable registries, listed by bytes rather than in
declared order. -/
theorem labels_reverse_indistinguishable :
    (empty.registerAll labels).1.Indistinguishable (empty.registerAll labels.reverse).1 ∧
      (empty.registerAll labels).1.entities = ["notes", "tags", "été"] ∧
      (empty.registerAll labels).1.Listing := by
  have hOrder := registration_order_unobservable empty (List.reverse_perm labels).symm
  obtain ⟨_, hSame, hListing⟩ := hOrder
  have hReachable : (empty.registerAll labels).1.Reachable :=
    .registerAll .empty labels
  refine ⟨hSame 3 rfl, ?_, hListing _ hReachable⟩
  have hKeys : (empty.registerAll labels).1.configs.keys = ["notes", "tags", "été"] := rfl
  rw [entities, hKeys]
  exact List.mergeSort_of_pairwise (by decide)

end EntitySearch.Registry
