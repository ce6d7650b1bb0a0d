import EntitySearch.Proofs.Refusal
import EntitySearch.Query.Assembly

/-! What compiling a request comes down to: which checks it makes, in which order, and what it
puts together once all of them have passed. -/
namespace EntitySearch

theorem Registry.lookup_eq_ok_iff {registry : Registry} {entity : String} {config : EntityConfig} :
    registry.lookup entity = .ok config ↔ registry.get? entity = some config := by
  unfold Registry.lookup
  cases registry.get? entity <;> simp

theorem Registry.lookup_eq_error_iff {registry : Registry} {entity : String}
    {error : ConfigurationError} :
    registry.lookup entity = .error error ↔
      registry.get? entity = none ∧ error = .unknownEntity entity := by
  unfold Registry.lookup
  cases registry.get? entity <;> simp [eq_comm]

section Checks

variable {field : SearchField} {config : EntityConfig} {error : SearchError}

/-- The values of an entry are checked independently of one another. -/
theorem checkValues_eq_ok_iff {values : List Json} :
    checkValues field values = .ok () ↔ ∀ value ∈ values, checkValue field value = .ok () := by
  induction values with
  | nil => simp [checkValues]
  | cons value rest ih => rw [checkValues, check_bind_eq_ok_iff, ih, List.forall_mem_cons]

/-- The error of an entry is that of its first refused value in the list, not of the least or the
last. -/
theorem checkValues_eq_error_iff {values : List Json} :
    checkValues field values = .error error ↔
      FirstRefusal (checkValue field · = .ok ()) (checkValue field · = .error ·) values error := by
  induction values with
  | nil => simp [checkValues, not_firstRefusal_nil]
  | cons value rest ih =>
      rw [checkValues, check_bind_eq_error_iff, firstRefusal_cons_iff, ih]

/-- Clauses of entries in order. Vacuous entries have none. -/
def entryClauses (entries : List FilterEntry) : List Clause :=
  entries.flatMap fun entry => (entry.condition.clause? entry.field).toList

/-- Entries compile exactly when each of them passes its check alone. Their number and their order
do not matter. -/
theorem compileEntries_eq_ok_iff {entries : List FilterEntry} {clauses : List Clause} :
    compileEntries config entries = .ok clauses ↔
      (∀ entry ∈ entries, checkEntry config entry = .ok ()) ∧ clauses = entryClauses entries := by
  induction entries generalizing clauses with
  | nil => simp [compileEntries, entryClauses, eq_comm]
  | cons entry rest ih =>
      rw [compileEntries, check_bind_eq_ok_iff, bind_eq_ok_iff, List.forall_mem_cons]
      simp only [pure_eq_ok_iff, ih, entryClauses, List.flatMap_cons]
      constructor
      · rintro ⟨hEntry, _, ⟨hRest, rfl⟩, rfl⟩
        exact ⟨⟨hEntry, hRest⟩, rfl⟩
      · rintro ⟨⟨hEntry, hRest⟩, rfl⟩
        exact ⟨hEntry, _, ⟨hRest, rfl⟩, rfl⟩

/-- A compilation reports the error of the first refused entry in request order. Entries behind it
are not checked. -/
theorem compileEntries_eq_error_iff {entries : List FilterEntry} :
    compileEntries config entries = .error error ↔
      FirstRefusal (checkEntry config · = .ok ()) (checkEntry config · = .error ·)
        entries error := by
  induction entries with
  | nil => simp [compileEntries, not_firstRefusal_nil]
  | cons entry rest ih =>
      rw [compileEntries, check_bind_eq_error_iff, bind_eq_error_iff, firstRefusal_cons_iff, ih]
      simp only [pure_ne_error, and_false, exists_false, or_false]

end Checks

/-- Constraints of a request in the order of checking: filters, then memberships and raw filters of
the options. -/
def requestEntries (filters : FilterSet) (options : SearchOptions) : List FilterEntry :=
  filters.entries ++ options.memberships.map (fun m => ⟨m.field, .anyOf m.values, .known⟩) ++
    options.raw.entries

/-- Filters come first, then memberships and raw filters of the options. A field named in several
places keeps each of its entries. -/
theorem entries_extend_filters (filters : FilterSet) (options : SearchOptions) :
    (filters.extend options.filters).entries = requestEntries filters options := by
  simp [FilterSet.extend, SearchOptions.filters, requestEntries]

namespace Registry

variable {registry : Registry} {entity : String} {filters : FilterSet} {options : SearchOptions}

/-- A request compiles exactly when its entity is registered and every constraint passes its check.
The body is then determined by constraints, text clauses and page. -/
theorem assemble_eq_ok_iff {search : CompiledSearch} :
    registry.assemble entity filters options = .ok search ↔
      ∃ config, registry.get? entity = some config ∧
        (∀ entry ∈ requestEntries filters options, checkEntry config entry = .ok ()) ∧
        search = {
          index := config.index
          document := {
            root := {
              must := entryClauses (requestEntries filters options)
              should := compileText config options.text
              minimumShouldMatch := options.text.map fun _ => 1
              boost := some standardBoost }
            page := options.page }
          policy := .standard } := by
  simp only [assemble, compileFilters, bind_eq_ok_iff, pure_eq_ok_iff, mapError_eq_ok_iff,
    lookup_eq_ok_iff, compileEntries_eq_ok_iff, entries_extend_filters]
  constructor
  · rintro ⟨config, hConfig, _, ⟨hChecks, rfl⟩, rfl⟩
    exact ⟨config, hConfig, hChecks, rfl⟩
  · rintro ⟨config, hConfig, hChecks, rfl⟩
    exact ⟨config, hConfig, _, ⟨hChecks, rfl⟩, rfl⟩

/-- An unknown entity is reported first; otherwise the error is that of the first refused
constraint. Text and paging never fail. -/
theorem assemble_eq_error_iff {error : SearchError} :
    registry.assemble entity filters options = .error error ↔
      registry.get? entity = none ∧ error = .configuration (.unknownEntity entity) ∨
      ∃ config, registry.get? entity = some config ∧
        FirstRefusal (checkEntry config · = .ok ()) (checkEntry config · = .error ·)
          (requestEntries filters options) error := by
  simp only [assemble, compileFilters, bind_eq_error_iff, mapError_eq_error_iff,
    mapError_eq_ok_iff, lookup_eq_error_iff, lookup_eq_ok_iff, compileEntries_eq_error_iff,
    entries_extend_filters, pure_ne_error, and_false, exists_false, or_false]
  constructor
  · rintro (⟨_, ⟨hUnknown, rfl⟩, rfl⟩ | hRefused)
    · exact .inl ⟨hUnknown, rfl⟩
    · exact .inr hRefused
  · rintro (⟨hUnknown, rfl⟩ | hRefused)
    · exact .inl ⟨_, ⟨hUnknown, rfl⟩, rfl⟩
    · exact .inr hRefused

end Registry

def taskConfig : EntityConfig :=
  ⟨"tasks", "tasks_v2", [⟨"title", .text, true⟩, ⟨"tag", .keyword, false⟩,
    ⟨"done", .boolean, false⟩]⟩

def taskRegistry : Registry :=
  ⟨(∅ : Std.TreeMap String EntityConfig).insert "tasks" taskConfig⟩

theorem get?_taskRegistry : taskRegistry.get? "tasks" = some taskConfig :=
  Std.TreeMap.getElem?_insert_self

end EntitySearch
