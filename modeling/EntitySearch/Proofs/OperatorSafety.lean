import EntitySearch.Proofs.RequestAcceptance
import EntitySearch.Proofs.SpelledRequest

/-! Which operators a compiled request may still hold. A backend that is asked for an object with an
operator in it cannot answer, so objects like that must be stopped on their way into a clause. -/
namespace EntitySearch

/-- An object one of whose keys has the form of an operator. -/
def Json.HoldsOperator (value : Json) : Prop :=
  ∃ members, value = .object members ∧ ∃ member ∈ members, isOperatorKey member.1

/-- Only objects hold operators. The search is not carried into their values or into lists. -/
theorem operatorIn?_eq_none_iff_not_holdsOperator {value : Json} :
    operatorIn? value = none ↔ ¬ value.HoldsOperator := by
  cases value with
  | object members => simp [operatorIn?_eq_none_iff, Json.HoldsOperator]
  | null | bool | number | string | array => simp [operatorIn?, Json.HoldsOperator]

/-- A value that fits a field is a scalar, so it holds no operator. -/
theorem Json.Fits.not_holdsOperator {field : SearchField} {value : Json} (h : value.Fits field) :
    ¬ value.HoldsOperator := by
  rintro ⟨members, rfl, _⟩
  exact h

section Clauses

variable {inner clause : Clause} {query : BoolQuery} {field : String} {value : Json}
  {allTerms : Bool}

/-- A clause itself or one inside it, at any depth of groups. -/
inductive Clause.Within (inner : Clause) : Clause → Prop where
  | self : Within inner inner
  | must {query : BoolQuery} {clause : Clause} (hClause : clause ∈ query.must)
      (h : Within inner clause) : Within inner (.group query)
  | should {query : BoolQuery} {clause : Clause} (hClause : clause ∈ query.should)
      (h : Within inner clause) : Within inner (.group query)

/-- Some clause of the combination matches this value on this field. -/
def BoolQuery.Asks (query : BoolQuery) (field : String) (value : Json) : Prop :=
  ∃ allTerms, Clause.Within (.matching field value allTerms) (.group query)

/-- Only groups contain clauses other than themselves. -/
theorem within_iff_of_ne_group (h : ∀ query, clause ≠ .group query) :
    inner.Within clause ↔ inner = clause := by
  constructor
  · intro hWithin
    cases hWithin with
    | self => rfl
    | must | should => exact absurd rfl (h _)
  · rintro rfl
    exact .self

theorem within_matching_iff :
    inner.Within (.matching field value allTerms) ↔ inner = .matching field value allTerms :=
  within_iff_of_ne_group nofun

theorem within_beginning_iff {start : String} :
    inner.Within (.beginning field start) ↔ inner = .beginning field start :=
  within_iff_of_ne_group nofun

/-- A match lies in a group exactly when it lies in one of its required or optional clauses. -/
theorem matching_within_group_iff :
    Clause.Within (.matching field value allTerms) (.group query) ↔
      ∃ clause ∈ query.must ++ query.should,
        Clause.Within (.matching field value allTerms) clause := by
  simp only [List.mem_append]
  constructor
  · intro h
    cases h with
    | must hClause h => exact ⟨_, .inl hClause, h⟩
    | should hClause h => exact ⟨_, .inr hClause, h⟩
  · rintro ⟨clause, hMust | hShould, h⟩
    · exact .must hMust h
    · exact .should hShould h

/-- A choice among values contains a match for each of them, and these ask for all terms. -/
theorem matching_within_anyOf_iff {name : String} {values : List Json} :
    Clause.Within (.matching field value allTerms) (.anyOf name values) ↔
      field = name ∧ allTerms = true ∧ value ∈ values := by
  rw [Clause.anyOf, matching_within_group_iff]
  simp only [List.nil_append, List.mem_map, Clause.equality]
  constructor
  · rintro ⟨_, ⟨candidate, hCandidate, rfl⟩, h⟩
    obtain ⟨rfl, rfl, rfl⟩ := Clause.matching.inj (within_matching_iff.mp h)
    exact ⟨rfl, rfl, hCandidate⟩
  · rintro ⟨rfl, rfl, hValue⟩
    exact ⟨_, ⟨value, hValue, rfl⟩, .self⟩

/-- The clause of a condition contains matches for exactly the values of the condition, on its own
field. -/
theorem matching_within_clause?_iff {name : String} {condition : Condition} :
    (∃ clause ∈ condition.clause? name, Clause.Within (.matching field value allTerms) clause) ↔
      field = name ∧ allTerms = true ∧ value ∈ condition.values := by
  cases condition with
  | equals wanted =>
      simp only [Condition.clause?, Condition.values, Option.mem_some_iff, exists_eq_left',
        Clause.equality, within_matching_iff, Clause.matching.injEq, List.mem_singleton]
      rw [and_comm (a := value = wanted)]
  | anyOf values =>
      cases values with
      | nil => simp [Condition.clause?, Condition.values]
      | cons first rest =>
          simp [Condition.clause?, Condition.values, matching_within_anyOf_iff]

/-- Matches in compiled entries come exactly from values of these entries. Vacuous entries
contribute none. -/
theorem matching_within_entryClauses_iff {entries : List FilterEntry} :
    (∃ clause ∈ entryClauses entries, Clause.Within (.matching field value allTerms) clause) ↔
      allTerms = true ∧ ∃ entry ∈ entries, entry.field = field ∧ value ∈ entry.condition.values := by
  simp only [entryClauses, List.mem_flatMap, Option.mem_toList]
  constructor
  · rintro ⟨clause, ⟨entry, hEntry, hClause⟩, h⟩
    obtain ⟨rfl, hTerms, hValue⟩ := matching_within_clause?_iff.mp ⟨clause, hClause, h⟩
    exact ⟨hTerms, entry, hEntry, rfl, hValue⟩
  · rintro ⟨hTerms, entry, hEntry, hField, hValue⟩
    obtain ⟨clause, hClause, h⟩ := matching_within_clause?_iff.mpr ⟨hField.symm, hTerms, hValue⟩
    exact ⟨clause, ⟨entry, hEntry, hClause⟩, h⟩

/-- Text clauses match the normalized term, a string, whatever the configuration is. -/
theorem not_holdsOperator_of_within_compileText {config : EntityConfig} {text : Option String}
    (hClause : clause ∈ compileText config text)
    (h : Clause.Within (.matching field value allTerms) clause) : ¬ value.HoldsOperator := by
  cases text with
  | none => cases hClause
  | some text =>
      obtain ⟨field, _, hClause⟩ := List.mem_flatMap.mp hClause
      rw [textClauses, List.mem_cons] at hClause
      obtain rfl | hClause := hClause
      · obtain ⟨_, rfl, _⟩ := Clause.matching.inj (within_matching_iff.mp h)
        simp [Json.HoldsOperator]
      · split at hClause
        · obtain rfl := List.mem_singleton.mp hClause
          cases within_beginning_iff.mp h
        · cases hClause

end Clauses

/-- Operators survive parsing of a filter object exactly inside its lists: scalar positions are
searched for operators, list items are not. -/
theorem FilterSet.mem_values_iff_of_ofJson {tier : Tier} {json value : Json} {filters : FilterSet}
    {field : String} (h : ofJson tier json = .ok filters) (hValue : value.HoldsOperator) :
    (∃ entry ∈ filters.entries,
        entry.tier = tier ∧ entry.field = field ∧ value ∈ entry.condition.values) ↔
      ∃ members values, json = .object members ∧ (field, .array values) ∈ members ∧
        value ∈ values := by
  constructor
  · rintro ⟨entry, hEntry, _, rfl, hIn⟩
    obtain ⟨members, ⟨name, spelt⟩, rfl, hMember, hOperator, rfl⟩ := of_mem_ofJson h hEntry
    cases spelt with
    | array values => exact ⟨members, values, rfl, hMember, hIn⟩
    | null | bool | number | string | object =>
        obtain rfl := List.mem_singleton.mp hIn
        exact absurd hValue (operatorIn?_eq_none_iff_not_holdsOperator.mp hOperator)
  · rintro ⟨members, values, rfl, hMember, hIn⟩
    exact ⟨_, mem_of_ofJson h hMember, rfl, rfl, hIn⟩

/-- The value stands in a list of a raw filter. Where the key of raw filters is repeated, only the
last occurrence counts. -/
def Json.ListsRaw (options : Json) (field : String) (value : Json) : Prop :=
  ∃ members raw values, options = .object members ∧
    members.reverse.lookup "$raw" = some (.object raw) ∧ (field, .array values) ∈ raw ∧
    value ∈ values

/-- Operators among the raw filters of parsed options are exactly the ones listed there in the
source. With a repeated key only the last raw object counts. -/
theorem SearchOptions.mem_values_raw_iff_of_ofJson {json value : Json} {options : SearchOptions}
    {field : String} (h : ofJson json = .ok options) (hValue : value.HoldsOperator) :
    (∃ entry ∈ options.raw.entries,
        entry.tier = .raw ∧ entry.field = field ∧ value ∈ entry.condition.values) ↔
      json.ListsRaw field value := by
  obtain ⟨rfl, rfl⟩ | ⟨members, rfl, hMembers, _⟩ := ofJson_eq_ok_iff.mp h
  · simp [empty, FilterSet.empty, Json.ListsRaw]
  · obtain ⟨hAbsent, hRaw⟩ | ⟨raw, hLast, hRaw⟩ := setBy_raw.addMembers hMembers
    · simp [Json.ListsRaw, hAbsent, hRaw, empty, FilterSet.empty]
    · rw [FilterSet.mem_values_iff_of_ofJson hRaw hValue]
      simp only [Json.ListsRaw, Json.object.injEq, exists_and_left, exists_eq_left', hLast,
        Option.some.injEq]

namespace Registry

variable {registry : Registry} {entity : String} {search : CompiledSearch} {field : String}
  {value : Json}

/-- In a compiled search an operator is matched exactly where a raw entry of the request holds it.
All other entries have been checked against their fields. -/
theorem asks_operator_iff {filters : FilterSet} {options : SearchOptions}
    (h : registry.assemble entity filters options = .ok search) (hValue : value.HoldsOperator) :
    search.document.root.Asks field value ↔
      ∃ entry ∈ requestEntries filters options,
        entry.tier = .raw ∧ entry.field = field ∧ value ∈ entry.condition.values := by
  obtain ⟨config, _, hChecks, rfl⟩ := assemble_eq_ok_iff.mp h
  simp only [BoolQuery.Asks, matching_within_group_iff, List.mem_append]
  constructor
  · rintro ⟨allTerms, clause, hMust | hShould, hWithin⟩
    · obtain ⟨_, entry, hEntry, hField, hEntryValue⟩ :=
        matching_within_entryClauses_iff.mp ⟨clause, hMust, hWithin⟩
      refine ⟨entry, hEntry, ?_, hField, hEntryValue⟩
      -- An entry of the other tier has passed its check, and what fits a field is no operator.
      cases hTier : entry.tier with
      | raw => rfl
      | known =>
          obtain ⟨declared, _, hFits⟩ := checkEntry_eq_ok_iff.mp (hChecks entry hEntry) hTier
          exact absurd hValue (hFits value hEntryValue).not_holdsOperator
    · exact absurd hValue (not_holdsOperator_of_within_compileText hShould hWithin)
  · rintro ⟨entry, hEntry, _, hField, hEntryValue⟩
    obtain ⟨clause, hMust, hWithin⟩ :=
      matching_within_entryClauses_iff.mpr ⟨rfl, entry, hEntry, hField, hEntryValue⟩
    exact ⟨true, clause, .inl hMust, hWithin⟩

/-- A compiled request has no unsupported operator among its option keys, and it matches an operator
object exactly where one stands in a list of a raw filter. That is the only place left unchecked. -/
theorem assembleJson_operators {filters options : Json}
    (h : registry.assembleJson entity filters options = .ok search) :
    (∀ members, options = .object members →
      ∀ member ∈ members, member.1 ∉ unsupportedOperators) ∧
    ∀ field value, value.HoldsOperator →
      (search.document.root.Asks field value ↔ options.ListsRaw field value) := by
  obtain ⟨read, parsed, hRead, hParsed, hSearch⟩ := assembleJson_eq_ok_iff.mp h
  constructor
  · rintro members rfl member hMember
    obtain ⟨hNull, _⟩ | ⟨_, hObject, hMembers, _⟩ := SearchOptions.ofJson_eq_ok_iff.mp hParsed
    · cases hNull
    · obtain rfl := Json.object.inj hObject
      obtain ⟨_, _, hTakes⟩ := SearchOptions.takes_of_addMembers hMembers member hMember
      have hOperator := hTakes.isUnsupportedOperator_eq_false
      simpa [isUnsupportedOperator] using hOperator
  · intro field value hValue
    rw [asks_operator_iff hSearch hValue,
      ← SearchOptions.mem_values_raw_iff_of_ofJson hParsed hValue]
    constructor
    · rintro ⟨entry, hEntry, hTier, hAsked⟩
      -- Only the last of the three kinds of entries is raw.
      rw [requestEntries, List.mem_append, List.mem_append, List.mem_map] at hEntry
      obtain (hFilter | ⟨membership, _, rfl⟩) | hRaw := hEntry
      · obtain ⟨_, _, _, _, _, rfl⟩ := FilterSet.of_mem_ofJson hRead hFilter
        cases hTier
      · cases hTier
      · exact ⟨entry, hRaw, hTier, hAsked⟩
    · rintro ⟨entry, hRaw, hAsked⟩
      exact ⟨entry, List.mem_append_right _ hRaw, hAsked⟩

def atLeastThree : Json :=
  .object [("$gte", .ofUInt64 3)]

theorem holdsOperator_atLeastThree : atLeastThree.HoldsOperator :=
  ⟨_, rfl, ("$gte", .ofUInt64 3), List.mem_singleton_self _, by decide⟩

def scoreOptions : Json :=
  .object [("$raw", .object [("score", .array [atLeastThree])])]

theorem listsRaw_scoreOptions_iff :
    scoreOptions.ListsRaw field value ↔ field = "score" ∧ value = atLeastThree := by
  simp [Json.ListsRaw, scoreOptions]

theorem tasks_ask_score : ∃ search,
    taskRegistry.assembleJson "tasks" (.object []) scoreOptions = .ok search ∧
      search.document.root.Asks "score" atLeastThree ∧
      ¬ search.document.root.Asks "tag" atLeastThree := by
  obtain ⟨search, hSearch⟩ : ∃ search,
      taskRegistry.assembleJson "tasks" (.object []) scoreOptions = .ok search := ⟨_, rfl⟩
  have hAsks := (assembleJson_operators hSearch).2
  refine ⟨search, hSearch, ?_, ?_⟩
  · rw [hAsks _ _ holdsOperator_atLeastThree, listsRaw_scoreOptions_iff]
    exact ⟨rfl, rfl⟩
  · rw [hAsks _ _ holdsOperator_atLeastThree, listsRaw_scoreOptions_iff]
    simp

/-- A request whose operator is compiled into a match, as one of the alternatives for its field. -/
theorem score_operator_compiled : ∃ search,
    taskRegistry.assembleJson "tasks" (.object []) scoreOptions = .ok search ∧
      search.document.root.must = [.anyOf "score" [atLeastThree]] ∧
      search.document.root.Asks "score" atLeastThree ∧ atLeastThree.HoldsOperator := by
  refine ⟨_, rfl, rfl, ⟨true, ?_⟩, holdsOperator_atLeastThree⟩
  exact .must (List.mem_singleton_self _) (.should (List.mem_singleton_self _) .self)

end Registry

end EntitySearch
