import EntitySearch.Proofs.RequestAcceptance
import EntitySearch.Proofs.SpelledOptions

/-! How the clauses of filters come together: filter by filter, in the order of the filters, with
one clause for each filter that says anything. -/
namespace EntitySearch

/-- A choice among no values, which compiles to no clause. -/
def Condition.isVacuous : Condition → Bool
  | .anyOf [] => true
  | .anyOf (_ :: _) | .equals _ => false

/-- The clause of an entry: one equality, or a disjunction of the equalities with its values in
order. -/
inductive FilterEntry.Yields : FilterEntry → Clause → Prop where
  | equality {field : String} {value : Json} {tier : Tier} :
      Yields ⟨field, .equals value, tier⟩ (.matching field value true)
  | choice {field : String} {values : List Json} {tier : Tier} (h : values ≠ []) :
      Yields ⟨field, .anyOf values, tier⟩
        (.group ⟨[], values.map fun value => .matching field value true, some 1, none⟩)

/-- The relation agrees with the compiled clause of an entry. -/
theorem FilterEntry.yields_iff {entry : FilterEntry} {clause : Clause} :
    entry.Yields clause ↔ entry.condition.clause? entry.field = some clause := by
  obtain ⟨field, condition, tier⟩ := entry
  constructor
  · intro h
    cases h with
    | equality => rfl
    | @choice _ values _ hValues =>
        obtain ⟨first, rest, rfl⟩ := List.exists_cons_of_ne_nil hValues
        rfl
  · intro h
    match condition with
    | .equals value =>
        obtain rfl := Option.some.inj h
        exact .equality
    | .anyOf [] => cases h
    | .anyOf (first :: rest) =>
        obtain rfl := Option.some.inj h
        exact .choice (List.cons_ne_nil first rest)

/-- The only condition without a clause is a choice among no values. -/
theorem Condition.clause?_eq_none_iff {field : String} {condition : Condition} :
    condition.clause? field = none ↔ condition.isVacuous = true := by
  match condition with
  | .equals _ | .anyOf [] | .anyOf (_ :: _) => simp [Condition.clause?, Condition.isVacuous]

/-- Compiled clauses correspond one to one, in order, to the entries that are not vacuous. -/
theorem forall₂_yields_iff {entries : List FilterEntry} {clauses : List Clause} :
    List.Forall₂ FilterEntry.Yields (entries.filter (!·.condition.isVacuous)) clauses ↔
      clauses = entryClauses entries := by
  induction entries generalizing clauses with
  | nil => exact List.forall₂_nil_left_iff
  | cons entry rest ih =>
      rw [entryClauses, List.flatMap_cons, ← entryClauses]
      cases hClause : entry.condition.clause? entry.field with
      | none =>
          have hVacuous := Condition.clause?_eq_none_iff.mp hClause
          rw [List.filter_cons_of_neg (by simp [hVacuous]), Option.toList_none, List.nil_append, ih]
      | some clause =>
          have hSays : entry.condition.isVacuous = false := by
            refine Bool.eq_false_iff.mpr fun hVacuous => ?_
            rw [Condition.clause?_eq_none_iff.mpr hVacuous] at hClause
            cases hClause
          rw [List.filter_cons_of_pos (by simp [hSays]), List.forall₂_cons_left_iff]
          simp only [FilterEntry.yields_iff, hClause, Option.some.injEq, ih, exists_and_left,
            exists_eq_left, exists_eq_left', Option.toList_some, List.singleton_append]

section Composition

variable (config : EntityConfig)

/-- Compilation distributes over concatenation, errors included: the first list fails before the
second is looked at. -/
theorem compileEntries_append (front back : List FilterEntry) :
    compileEntries config (front ++ back) = do
      let first ← compileEntries config front
      let second ← compileEntries config back
      return first ++ second := by
  induction front with
  | nil => exact (bind_pure (compileEntries config back)).symm
  | cons entry rest ih =>
      simp only [List.cons_append, compileEntries, ih, bind_assoc, pure_bind, List.append_assoc]

/-- A vacuous entry that passes its check adds no clause. Its field must still be known. -/
theorem compileEntries_cons_of_isVacuous {entry : FilterEntry} (h : entry.condition.isVacuous)
    (hEntry : entry.Accepted config) (rest : List FilterEntry) :
    compileEntries config (entry :: rest) = compileEntries config rest := by
  rw [compileEntries, checkEntry_eq_ok_iff.mpr hEntry, Condition.clause?_eq_none_iff.mpr h]
  exact bind_pure (compileEntries config rest)

/-- Filters compile exactly when every entry is accepted, into one clause for each entry that is not
vacuous. -/
theorem compileFilters_eq_ok_iff {filters : FilterSet} {clauses : List Clause} :
    compileFilters config filters = .ok clauses ↔
      (∀ entry ∈ filters.entries, entry.Accepted config) ∧
      List.Forall₂ FilterEntry.Yields
        (filters.entries.filter (!·.condition.isVacuous)) clauses := by
  simp only [compileFilters, compileEntries_eq_ok_iff, checkEntry_eq_ok_iff, forall₂_yields_iff]

/-- The same at the level of filter sets, whose entries are concatenated. -/
theorem compileFilters_extend (filters others : FilterSet) :
    compileFilters config (filters.extend others) = do
      let first ← compileFilters config filters
      let second ← compileFilters config others
      return first ++ second :=
  compileEntries_append config filters.entries others.entries

/-- An accepted vacuous entry may stand anywhere among the others without effect on the result,
success or error. -/
theorem compileFilters_insert_of_isVacuous {entry : FilterEntry} (h : entry.condition.isVacuous)
    (hEntry : entry.Accepted config) (before after : List FilterEntry) :
    compileFilters config ⟨before ++ entry :: after⟩ = compileFilters config ⟨before ++ after⟩ := by
  simp only [compileFilters, compileEntries_append,
    compileEntries_cons_of_isVacuous config h hEntry]

end Composition

/-- A list in the last place of the filters is read as a choice among its values, the same condition
that a membership has. -/
theorem FilterSet.ofJson_concat_array (tier : Tier) (members : List (String × Json))
    (field : String) (values : List Json) :
    ofJson tier (.object (members ++ [(field, .array values)])) =
      (ofJson tier (.object members) >>= fun filters =>
        pure (filters.push ⟨field, .anyOf values, tier⟩)) := by
  simp only [ofJson, List.mapM_append, List.mapM_cons, List.mapM_nil, bind_assoc, pure_bind]
  rfl

def SearchOptions.withFirst (options : SearchOptions) (membership : Membership) : SearchOptions :=
  { options with memberships := membership :: options.memberships }

theorem SearchOptions.Spellable.withFirst {options : SearchOptions} (h : options.Spellable)
    (membership : Membership) : (options.withFirst membership).Spellable :=
  ⟨h.limit, h.raw⟩

section Lists

variable (registry : Registry) (entity : String) (members : List (String × Json))
  (options : SearchOptions) (field : String) (values : List Json)

/-- A choice at the end of the filters compiles to the same search as a membership in front of the
options, for typed requests. -/
theorem Registry.assemble_anyOf (filters : FilterSet) :
    registry.assemble entity (filters.anyOf field values) options =
      registry.assemble entity filters (options.withFirst ⟨field, values⟩) := by
  have hEntries : (filters.anyOf field values).extend options.filters =
      filters.extend (options.withFirst ⟨field, values⟩).filters := by
    simp [FilterSet.extend, FilterSet.anyOf, FilterSet.push, SearchOptions.filters,
      SearchOptions.withFirst]
  rw [assemble, assemble, hEntries]
  rfl

/-- The same for requests in JSON. Options must be spellable, so that what is written is read
back. -/
theorem Registry.assembleJson_concat_array (h : options.Spellable) :
    registry.assembleJson entity (.object (members ++ [(field, .array values)])) options.toJson =
      registry.assembleJson entity (.object members)
        (options.withFirst ⟨field, values⟩).toJson := by
  rw [h.assembleJson_toJson, (h.withFirst _).assembleJson_toJson, FilterSet.ofJson_concat_array,
    bind_assoc]
  congr 1
  funext filters
  exact registry.assemble_anyOf entity options field values filters

end Lists

/-- Filters compile one by one. Joined sets give joined clauses or the first error of the two; every
entry gives at most one clause in its place, and a vacuous one gives none; a list means the same
among filters and memberships. -/
theorem compileFilters_filterwise (config : EntityConfig) :
    (∀ filters others, compileFilters config (filters.extend others) = do
      let first ← compileFilters config filters
      let second ← compileFilters config others
      return first ++ second) ∧
    (∀ filters clauses, compileFilters config filters = .ok clauses ↔
      (∀ entry ∈ filters.entries, entry.Accepted config) ∧
      List.Forall₂ FilterEntry.Yields
        (filters.entries.filter (!·.condition.isVacuous)) clauses) ∧
    (∀ before after field tier,
      tier = .raw ∨ (∃ declared, config.field? field = some declared) →
      compileFilters config ⟨before ++ ⟨field, .anyOf [], tier⟩ :: after⟩ =
        compileFilters config ⟨before ++ after⟩) ∧
    ∀ (registry : Registry) entity members (options : SearchOptions) field values,
      options.Spellable →
      registry.assembleJson entity (.object (members ++ [(field, .array values)]))
          options.toJson =
        registry.assembleJson entity (.object members)
          (options.withFirst ⟨field, values⟩).toJson := by
  refine ⟨compileFilters_extend config, fun _ _ => compileFilters_eq_ok_iff config, ?_, ?_⟩
  · intro before after field tier hDeclared
    refine compileFilters_insert_of_isVacuous config rfl (fun hKnown => ?_) before after
    obtain hRaw | ⟨declared, hField⟩ := hDeclared
    · cases hRaw.symm.trans hKnown
    · exact ⟨declared, hField, nofun⟩
  · intro registry entity members options field values hOptions
    exact registry.assembleJson_concat_array entity members options field values hOptions

/-- An empty choice of titles leaves the search as it is, and a list of tags gives one search in
both places. -/
theorem idle_title_and_moved_tags :
    taskConfig.field? "title" = some ⟨"title", .text, true⟩ ∧
      SearchOptions.everyOption.Spellable ∧
      compileFilters taskConfig ⟨[⟨"tag", .anyOf [.string "a", .string "b"], .known⟩,
          ⟨"title", .anyOf [], .known⟩, ⟨"done", .equals (.bool true), .known⟩]⟩ =
        .ok [.anyOf "tag" [.string "a", .string "b"], .equality "done" (.bool true)] ∧
      taskRegistry.assembleJson "tasks"
          (.object [("done", .bool true), ("tag", .array [.string "a"])])
          SearchOptions.everyOption.toJson =
        taskRegistry.assembleJson "tasks" (.object [("done", .bool true)])
          (SearchOptions.everyOption.withFirst ⟨"tag", [.string "a"]⟩).toJson := by
  obtain ⟨_, _, hIdle, hMoved⟩ := compileFilters_filterwise taskConfig
  have hTitle : taskConfig.field? "title" = some ⟨"title", .text, true⟩ := by decide
  refine ⟨hTitle, SearchOptions.everyOption_spellable, ?_, ?_⟩
  · exact hIdle [⟨"tag", .anyOf [.string "a", .string "b"], .known⟩]
      [⟨"done", .equals (.bool true), .known⟩] "title" .known (.inr ⟨_, hTitle⟩)
  · exact hMoved taskRegistry "tasks" [("done", .bool true)] SearchOptions.everyOption "tag"
      [.string "a"] SearchOptions.everyOption_spellable

end EntitySearch
