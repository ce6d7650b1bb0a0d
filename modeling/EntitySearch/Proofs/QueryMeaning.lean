import EntitySearch.Proofs.Compilation

/-! What a written query means, once it is known which of its innermost clauses hold. -/
namespace EntitySearch

/-- Truth values of the leaf clauses, which look into the index itself. Every theorem below is for
all of them. -/
structure Interpretation where
  /-- The field, the query and whether all of its terms are asked for. -/
  matching : String → Json → Bool → Bool
  /-- The field and the beginning of a word in it. -/
  beginning : String → String → Bool

namespace Json

variable (leaves : Interpretation)

/-- Requires one field and its query. Any operator other than `AND` asks for some term only. -/
def matchHolds : Json → Bool
  | .object [(field, .object parameters)] =>
    match parameters.lookup "query" with
    | some query =>
      leaves.matching field query ((parameters.lookup "operator").bind string? == some "AND")
    | none => false
  | _ => false

def prefixHolds : Json → Bool
  | .object [(field, .object parameters)] =>
    match (parameters.lookup "value").bind string? with
    | some value => leaves.beginning field value
    | none => false
  | _ => false

/-- An absent minimum demands nothing. Anything but an integer is never met. -/
def meetsMinimum (count : Nat) : Option Json → Bool
  | none => true
  | some (.number (.integer minimum)) => decide (minimum.value ≤ count)
  | some _ => false

mutual

/-- Meaning of a written clause. What has no known kind never holds. -/
def clauseHolds : Json → Bool
  | .object [(kind, operand)] =>
    if kind = "match" then matchHolds leaves operand
    else if kind = "prefix" then prefixHolds leaves operand
    else if kind = "bool" then boolHolds operand
    else false
  | _ => false

/-- Every element of `must` holds, and enough of `should`. Other members are ignored, boost
included. -/
def boolHolds : Json → Bool
  | .object members =>
    (branchTruths "must" members).all id &&
      meetsMinimum ((branchTruths "should" members).count true)
        (members.lookup "minimum_should_match")
  | _ => false

/-- Truth values of all clauses in branches of this name. An absent branch has none. -/
def branchTruths (name : String) : List (String × Json) → List Bool
  | [] => []
  | (key, branch) :: rest =>
    if key = name then elementTruths branch ++ branchTruths name rest else branchTruths name rest

def elementTruths : Json → List Bool
  | .array clauses => truths clauses
  | _ => [false]

def truths : List Json → List Bool
  | [] => []
  | clause :: rest => clauseHolds clause :: truths rest

end

end Json

mutual

def Clause.holds (leaves : Interpretation) : Clause → Bool
  | .matching field query allTerms => leaves.matching field query allTerms
  | .beginning field value => leaves.beginning field value
  | .group query => query.holds leaves

def BoolQuery.holds (leaves : Interpretation) : BoolQuery → Bool
  | ⟨must, should, minimumShouldMatch, _⟩ =>
    (clauseTruths leaves must).all id &&
      decide ((minimumShouldMatch.elim 0 UInt32.toNat) ≤ (clauseTruths leaves should).count true)

def clauseTruths (leaves : Interpretation) : List Clause → List Bool
  | [] => []
  | clause :: rest => clause.holds leaves :: clauseTruths leaves rest

end

namespace Json

variable (leaves : Interpretation)

/-- Truth values of a branch are collected over all members of its name, in order. -/
theorem branchTruths_append (name : String) (front back : List (String × Json)) :
    branchTruths leaves name (front ++ back) =
      branchTruths leaves name front ++ branchTruths leaves name back := by
  induction front with
  | nil => rfl
  | cons member rest ih =>
      obtain ⟨key, branch⟩ := member
      by_cases hKey : key = name
      · simp [branchTruths, hKey, ih]
      · simp [branchTruths, hKey, ih]

/-- Omitting an empty branch leaves its truth values as they were, namely none. -/
theorem branchTruths_branchMember (name key : String) (clauses : List Json) :
    branchTruths leaves name (branchMember key clauses) =
      if key = name then truths leaves clauses else [] := by
  cases clauses with
  | nil => simp [branchMember, branchTruths, truths]
  | cons clause rest =>
      by_cases hKey : key = name <;> simp [branchMember, branchTruths, elementTruths, hKey]

theorem lookup_branchMember {name key : String} (hKey : key ≠ name) (clauses : List Json) :
    (branchMember key clauses).lookup name = none := by
  cases clauses with
  | nil => rfl
  | cons clause rest => simp [branchMember, List.lookup_cons, beq_eq_false_iff_ne.mpr hKey.symm]

/-- A member with the name of a setting never contributes truth values. -/
theorem branchTruths_setting {α : Type} {name key : String} (hKey : key ≠ name)
    (setting : Option α) (write : α → Json) :
    branchTruths leaves name (setting.map fun x => (key, write x)).toList = [] := by
  cases setting <;> simp [branchTruths, hKey]

/-- A setting is found under its own name only, and only if it is set. -/
theorem lookup_setting {α : Type} (name key : String) (setting : Option α) (write : α → Json) :
    (setting.map fun x => (key, write x)).toList.lookup name =
      if key = name then setting.map write else none := by
  cases setting with
  | none => simp
  | some x =>
      by_cases hKey : key = name
      · simp [hKey]
      · simp [List.lookup_cons, hKey, beq_eq_false_iff_ne.mpr (Ne.symm hKey)]

/-- Reading a written match recovers its leaf, with the flag for all terms. -/
theorem matchHolds_toJson (field : String) (query : Json) (allTerms : Bool) :
    clauseHolds leaves (Clause.matching field query allTerms).toJson =
      leaves.matching field query allTerms := by
  cases allTerms <;> simp [Clause.toJson, clauseHolds, matchHolds, List.lookup_cons, string?]

theorem prefixHolds_toJson (field value : String) :
    clauseHolds leaves (Clause.beginning field value).toJson = leaves.beginning field value := by
  simp [Clause.toJson, clauseHolds, prefixHolds, string?]

/-- A written minimum is met exactly when the number is reached. An absent one counts as zero. -/
theorem meetsMinimum_written (count : Nat) (minimum : Option UInt32) :
    meetsMinimum count (minimum.map fun n => ofUInt64 n.toUInt64) =
      decide (minimum.elim 0 UInt32.toNat ≤ count) := by
  cases minimum with
  | none => simp [meetsMinimum]
  | some n =>
      simp only [meetsMinimum, ofUInt64, Number.ofUInt64, WordInt.ofUInt64, Option.map_some,
        Option.elim_some, UInt32.toNat_toUInt64]
      exact decide_eq_decide.mpr Int.ofNat_le

/-- Omitted empty branches and unset settings do not change the meaning of a combination. Boost is
ignored. -/
theorem boolHolds_written (must should : List Json) (minimum : Option UInt32)
    (boost : Option Binary64) :
    boolHolds leaves (.object ((boost.map fun x => ("boost", Json.number (.float x))).toList ++
        branchMember "must" must ++ branchMember "should" should ++
        (minimum.map fun n => ("minimum_should_match", ofUInt64 n.toUInt64)).toList)) =
      ((truths leaves must).all id &&
        decide (minimum.elim 0 UInt32.toNat ≤ (truths leaves should).count true)) := by
  rw [boolHolds, ← meetsMinimum_written]
  congr 1
  · congr 1
    simp [branchTruths_append, branchTruths_branchMember, branchTruths_setting leaves]
  · congr 1
    · congr 1
      simp [branchTruths_append, branchTruths_branchMember, branchTruths_setting leaves]
    · simp [List.lookup_append, lookup_branchMember, lookup_setting]

mutual

/-- Mutual induction on clauses and queries: writing preserves meaning at any depth. -/
theorem clauseHolds_toJson : ∀ clause : Clause,
    clauseHolds leaves clause.toJson = clause.holds leaves
  | .matching field query allTerms => matchHolds_toJson leaves field query allTerms
  | .beginning field value => prefixHolds_toJson leaves field value
  | .group query => by
      simp only [Clause.toJson, clauseHolds, Clause.holds]
      exact boolHolds_toJson query

theorem boolHolds_toJson : ∀ query : BoolQuery,
    boolHolds leaves query.toJson = query.holds leaves
  | ⟨must, should, minimum, boost⟩ => by
      rw [BoolQuery.toJson, boolHolds_written, truths_clausesToJson must,
        truths_clausesToJson should, BoolQuery.holds]

theorem truths_clausesToJson : ∀ clauses : List Clause,
    truths leaves (clausesToJson clauses) = clauseTruths leaves clauses
  | [] => rfl
  | clause :: rest => by
      rw [clausesToJson, truths, clauseTruths, clauseHolds_toJson clause,
        truths_clausesToJson rest]

end

end Json

variable (leaves : Interpretation)

theorem clauseTruths_eq_map (clauses : List Clause) :
    clauseTruths leaves clauses = clauses.map (Clause.holds leaves) := by
  induction clauses with
  | nil => rfl
  | cons clause rest ih => rw [clauseTruths, ih, List.map_cons]

/-- A combination holds exactly when all required clauses hold and as many optional ones as its
minimum says. Without a minimum none is needed. -/
theorem BoolQuery.holds_eq_true_iff (query : BoolQuery) :
    query.holds leaves = true ↔
      (∀ clause ∈ query.must, clause.holds leaves = true) ∧
      query.minimumShouldMatch.elim 0 UInt32.toNat ≤
        (query.should.map (Clause.holds leaves)).count true := by
  obtain ⟨must, should, minimum, boost⟩ := query
  simp [BoolQuery.holds, clauseTruths_eq_map]

/-- With a minimum of one, some optional clause must hold. An empty list of them never suffices. -/
theorem BoolQuery.holds_of_minimum_one (must should : List Clause) (boost : Option Binary64) :
    BoolQuery.holds leaves ⟨must, should, some 1, boost⟩ = true ↔
      (∀ clause ∈ must, clause.holds leaves = true) ∧
      ∃ clause ∈ should, clause.holds leaves = true := by
  rw [holds_eq_true_iff]
  change _ ∧ 1 ≤ (should.map (Clause.holds leaves)).count true ↔ _
  rw [List.one_le_count_iff, List.mem_map]

/-- A choice holds exactly when the match of one of its values does. -/
theorem Clause.holds_anyOf (field : String) (values : List Json) :
    (Clause.anyOf field values).holds leaves = true ↔
      ∃ value ∈ values, leaves.matching field value true = true := by
  rw [Clause.anyOf, Clause.holds, BoolQuery.holds_of_minimum_one]
  simp [Clause.equality, Clause.holds]

/-- The field has the value, or one of the values. The empty choice holds in every
interpretation. -/
def FilterEntry.Holds (entry : FilterEntry) : Prop :=
  match entry.condition with
  | .equals value => leaves.matching entry.field value true = true
  | .anyOf values => values ≠ [] → ∃ value ∈ values, leaves.matching entry.field value true = true

/-- A text field matches the term or, where prefixes are kept, has a word that begins with it. -/
def SearchField.Finds (term : String) (field : SearchField) : Prop :=
  leaves.matching field.name (.string term) false = true ∨
    field.prefixes = true ∧ leaves.beginning field.name term = true

/-- The compiled clause of a constraint is equivalent to the constraint. A vacuous one holds in
every interpretation. -/
theorem FilterEntry.clause_holds_iff (entry : FilterEntry) :
    (∀ clause ∈ (entry.condition.clause? entry.field).toList, clause.holds leaves = true) ↔
      entry.Holds leaves := by
  obtain ⟨field, condition, tier⟩ := entry
  cases condition with
  | equals value => simp [FilterEntry.Holds, Condition.clause?, Clause.equality, Clause.holds]
  | anyOf values =>
      cases values with
      | nil => simp [FilterEntry.Holds, Condition.clause?]
      | cons value rest =>
          simp only [FilterEntry.Holds, Condition.clause?, Option.toList_some,
            List.forall_mem_singleton, Clause.holds_anyOf]
          exact ⟨fun h _ => h, fun h => h (List.cons_ne_nil _ _)⟩

/-- Required clauses hold together exactly when all constraints do. -/
theorem entryClauses_hold_iff (entries : List FilterEntry) :
    (∀ clause ∈ entryClauses entries, clause.holds leaves = true) ↔
      ∀ entry ∈ entries, entry.Holds leaves := by
  simp only [entryClauses, List.mem_flatMap, forall_exists_index, and_imp,
    ← FilterEntry.clause_holds_iff]
  exact ⟨fun h entry hEntry clause hClause => h clause entry hEntry hClause,
    fun h clause entry hEntry hClause => h entry hEntry clause hClause⟩

/-- Some clause for a field holds exactly when the field finds the term, by a match or, where it
keeps prefixes, by a prefix. -/
theorem textClauses_hold_iff (term : String) (field : SearchField) :
    (∃ clause ∈ textClauses term field, clause.holds leaves = true) ↔ field.Finds leaves term := by
  cases hPrefixes : field.prefixes <;>
    simp [textClauses, SearchField.Finds, Clause.textMatch, Clause.holds, hPrefixes]

/-- Some text clause holds exactly when some text field finds the normalized term. Fields of other
kinds are never searched. -/
theorem compileText_hold_iff (config : EntityConfig) (text : String) :
    (∃ clause ∈ compileText config (some text), clause.holds leaves = true) ↔
      ∃ field ∈ config.fields, field.kind = .text ∧ field.Finds leaves (Term.normalize text) := by
  simp only [compileText, EntityConfig.textFields, List.mem_flatMap, List.mem_filter,
    ← textClauses_hold_iff, beq_iff_eq]
  constructor
  · rintro ⟨clause, ⟨field, ⟨hField, hText⟩, hClause⟩, hHolds⟩
    exact ⟨field, hField, hText, clause, hClause, hHolds⟩
  · rintro ⟨field, hField, hText, clause, hClause, hHolds⟩
    exact ⟨clause, ⟨field, ⟨hField, hText⟩, hClause⟩, hHolds⟩

/-- Combination at the root of a request body. -/
def rootQuery? (body : Json) : Option Json :=
  (body.get? "query").bind (·.get? "bool")

theorem QueryDocument.rootQuery?_body (document : QueryDocument) :
    rootQuery? document.body = some document.root.toJson := by
  simp [rootQuery?, QueryDocument.body, QueryDocument.bodyMembers, Json.get?]

/-- The compiled root is equivalent to its constraints together with the text, if one is given.
Without text fields a text is never found. -/
theorem root_holds_iff (config : EntityConfig) (entries : List FilterEntry) (text : Option String)
    (boost : Option Binary64) :
    BoolQuery.holds leaves ⟨entryClauses entries, compileText config text, text.map fun _ => 1,
        boost⟩ = true ↔
      (∀ entry ∈ entries, entry.Holds leaves) ∧
      ∀ term, text = some term →
        ∃ field ∈ config.fields, field.kind = .text ∧ field.Finds leaves (Term.normalize term) := by
  cases text with
  | none => simp [BoolQuery.holds_eq_true_iff, entryClauses_hold_iff]
  | some term =>
      rw [Option.map_some, BoolQuery.holds_of_minimum_one, entryClauses_hold_iff,
        compileText_hold_iff]
      simp

/-- Compilation preserves meaning, for every interpretation of the leaf clauses: the query read back
from the body holds exactly when every constraint of the request holds and its text, if given, is
found in a text field. -/
theorem Registry.rootQuery_holds_iff {registry : Registry} {entity : String} {filters : FilterSet}
    {options : SearchOptions} {search : CompiledSearch}
    (h : registry.assemble entity filters options = .ok search) :
    ∃ config query, registry.get? entity = some config ∧ rootQuery? search.body = some query ∧
      (Json.boolHolds leaves query = true ↔
        (∀ entry ∈ requestEntries filters options, entry.Holds leaves) ∧
        ∀ term, options.text = some term →
          ∃ field ∈ config.fields,
            field.kind = .text ∧ field.Finds leaves (Term.normalize term)) ∧
      (options.text ≠ none → (∀ field ∈ config.fields, field.kind ≠ .text) →
        Json.boolHolds leaves query = false) := by
  obtain ⟨config, hConfig, _, rfl⟩ := Registry.assemble_eq_ok_iff.mp h
  have hMeaning := root_holds_iff leaves config (requestEntries filters options) options.text
    (some standardBoost)
  refine ⟨config, _, hConfig, QueryDocument.rootQuery?_body _, ?_, ?_⟩
  · rw [Json.boolHolds_toJson]
    exact hMeaning
  · intro hText hFields
    obtain ⟨term, hTerm⟩ := Option.ne_none_iff_exists'.mp hText
    rw [Json.boolHolds_toJson, Bool.eq_false_iff]
    intro hHolds
    obtain ⟨field, hField, hKind, _⟩ := (hMeaning.mp hHolds).2 term hTerm
    exact hFields field hField hKind

/-- A task with one of two tags is found by a prefix of its title alone. -/
theorem rootQuery_holds_by_prefix :
    ∃ search query,
      taskRegistry.assemble "tasks" (FilterSet.empty.anyOf "tag" [.string "a", .string "b"])
        (SearchOptions.empty.withText "Über") = .ok search ∧
      rootQuery? search.body = some query ∧
      Json.boolHolds
        ⟨fun field value _ => field == "tag" && value.string? == some "b",
          fun field _ => field == "title"⟩ query = true := by
  obtain ⟨search, h⟩ : ∃ search,
      taskRegistry.assemble "tasks" (FilterSet.empty.anyOf "tag" [.string "a", .string "b"])
        (SearchOptions.empty.withText "Über") = .ok search :=
    ⟨_, Registry.assemble_eq_ok_iff.mpr ⟨taskConfig, get?_taskRegistry, by
      simp [requestEntries, FilterSet.anyOf, FilterSet.push, FilterSet.empty,
        SearchOptions.withText, SearchOptions.empty, checkEntry, EntityConfig.field?, taskConfig,
        Condition.values, checkValues, checkValue, bind, Except.bind], rfl⟩⟩
  obtain ⟨config, query, hConfig, hQuery, hMeaning, _⟩ := Registry.rootQuery_holds_iff
    ⟨fun field value _ => field == "tag" && value.string? == some "b",
      fun field _ => field == "title"⟩ h
  refine ⟨search, query, h, hQuery, hMeaning.mpr ⟨?_, ?_⟩⟩
  · simp [requestEntries, FilterSet.anyOf, FilterSet.push, FilterSet.empty,
      SearchOptions.withText, SearchOptions.empty, FilterEntry.Holds, Json.string?]
  · rintro term hTerm
    obtain rfl := Option.some.inj (hConfig.symm.trans get?_taskRegistry)
    exact ⟨⟨"title", .text, true⟩, by simp [taskConfig], rfl, .inr ⟨rfl, rfl⟩⟩

end EntitySearch
