import EntitySearch.CommandLine.Run
import EntitySearch.Proofs.SpelledRequest

/-! A page of results is a matter of its own: which results there are, and how many of them, does
not depend on it. -/
namespace EntitySearch

/-- Body of a search: the query and the numbers of the page, and no further member. -/
structure Json.Searches (body query : Json) (page : Page) : Prop where
  distinct : ∃ members, body = .object members ∧ (members.map Prod.fst).Nodup
  query : body.get? "query" = some query
  size : body.get? "size" = page.limit.map .ofUInt64
  start : body.get? "from" = page.offset.map .ofUInt64
  other : ∀ key, key ∉ ["query", "size", "from"] → body.get? key = none

/-- Body of a count, down to its text. -/
def Json.Counts (body query : Json) : Prop :=
  body.compact = "\x7b\"query\":" ++ query.compact ++ ",\"size\":0\x7d"

namespace QueryDocument

variable (document : QueryDocument)

def query : Json :=
  .object [("bool", document.root.toJson)]

/-- The body of a search has its query and its page numbers, and no further member. -/
theorem searches_body : document.body.Searches document.query document.page := by
  obtain ⟨root, limit, offset⟩ := document
  constructor
  · refine ⟨_, rfl, ?_⟩
    cases limit <;> cases offset <;> simp [bodyMembers]
  · cases limit <;> cases offset <;> rfl
  · cases limit <;> cases offset <;> rfl
  · cases limit <;> cases offset <;> rfl
  · intro key hKey
    simp only [List.mem_cons, List.not_mem_nil, or_false, not_or] at hKey
    obtain ⟨hQuery, hSize, hStart⟩ := hKey
    cases limit <;> cases offset <;>
      simp [body, bodyMembers, Json.get?, List.lookup_cons, beq_eq_false_iff_ne.mpr hQuery,
        beq_eq_false_iff_ne.mpr hSize, beq_eq_false_iff_ne.mpr hStart]

/-- The body of a count has the query and a size of zero. No page number is written. -/
theorem countBody_eq : document.countBody =
    .object [("query", document.query), ("size", .ofUInt64 0)] := by
  obtain ⟨root, limit, offset⟩ := document
  cases limit <;> cases offset <;> rfl

/-- The same down to the text of the body. -/
theorem counts_countBody : document.countBody.Counts document.query := by
  have hQuery : Json.quoteChars "query" = ['"', 'q', 'u', 'e', 'r', 'y', '"'] := by decide
  have hSize : Json.quoteChars "size" = ['"', 's', 'i', 'z', 'e', '"'] := by decide
  have hZero : (Json.ofUInt64 0).chars = ['0'] := by decide
  rw [countBody_eq, Json.Counts, ← String.toList_inj]
  simp [Json.compact, Json.chars, Json.membersChars, hQuery, hSize, hZero]

end QueryDocument

/-- Searches for one query in one index that differ in their page numbers only. They count alike. -/
structure CompiledSearch.SameButPage (page other : Page) (first second : CompiledSearch) :
    Prop where
  index : first.index = second.index
  policy : first.policy = second.policy
  bodies : ∃ query, first.body.Searches query page ∧ second.body.Searches query other ∧
    first.countBody.Counts query
  countBody : first.countBody = second.countBody

/-- Searches that differ in their pages alone have equal counts and equal queries. -/
theorem CompiledSearch.sameButPage (index : String) (root : BoolQuery) (page other : Page)
    (policy : ExecutionPolicy) :
    SameButPage page other ⟨index, ⟨root, page⟩, policy⟩ ⟨index, ⟨root, other⟩, policy⟩ where
  index := rfl
  policy := rfl
  bodies := ⟨_, QueryDocument.searches_body ⟨root, page⟩, QueryDocument.searches_body ⟨root, other⟩,
    QueryDocument.counts_countBody ⟨root, page⟩⟩
  countBody := (QueryDocument.countBody_eq ⟨root, page⟩).trans
    (QueryDocument.countBody_eq ⟨root, other⟩).symm

/-- Outputs of the two modes for one request. -/
def CommandLine.SearchAndCount (page : Page) (search count : Json) : Prop :=
  ∃ index body countBody policy query,
    search = .object [("index", index), ("body", body), ("options", policy)] ∧
    count = .object [("index", index), ("body", countBody), ("options", policy)] ∧
    body.Searches query page ∧ countBody.Counts query

variable (registry : Registry) (entity : String)

/-- Replacing the page of typed options changes the page of the result and nothing else. Errors are
equal. -/
theorem Registry.assemble_sameButPage (filters : FilterSet) (options : SearchOptions)
    (page : Page) :
    SameOutcome (CompiledSearch.SameButPage options.page page)
      (registry.assemble entity filters options)
      (registry.assemble entity filters { options with page }) := by
  unfold assemble
  exact .bind fun config _ => .bind fun must _ => .ok (CompiledSearch.sameButPage ..)

/-- The two modes of the command fail together with equal errors or put out a search and the count
for its query. -/
theorem CommandLine.compile_searchAndCount (filters options : String) :
    SameOutcome (fun search count => ∃ value read, Json.parse options = .ok value ∧
        SearchOptions.ofJson value = .ok read ∧ SearchAndCount read.page search count)
      (compile registry entity filters options false)
      (compile registry entity filters options true) := by
  unfold compile
  refine .bind fun filterValue _ => .bind fun value hValue => .bind fun search hSearch => .ok ?_
  obtain ⟨_, read, _, hRead, hAssembled⟩ :=
    Registry.assembleJson_eq_ok_iff.mp (mapError_eq_ok_iff.mp hSearch)
  obtain ⟨config, _, _, rfl⟩ := Registry.assemble_eq_ok_iff.mp hAssembled
  exact ⟨value, read, mapError_eq_ok_iff.mp hValue, hRead, _, _, _, _, _, rfl, rfl,
    QueryDocument.searches_body _, QueryDocument.counts_countBody _⟩

/-- Neither the page nor the mode changes what is searched for. With another page the same requests
compile, with equal errors, to searches for one query in one index whose bodies differ in the two
numbers only. Counting leaves both numbers out. -/
theorem Registry.query_independent_of_page :
    (∀ filters options page,
      SameOutcome (CompiledSearch.SameButPage options.page page)
        (registry.assemble entity filters options)
        (registry.assemble entity filters { options with page })) ∧
    ∀ filters options,
      SameOutcome (fun search count => ∃ value read, Json.parse options = .ok value ∧
          SearchOptions.ofJson value = .ok read ∧
          CommandLine.SearchAndCount read.page search count)
        (CommandLine.compile registry entity filters options false)
        (CommandLine.compile registry entity filters options true) :=
  ⟨registry.assemble_sameButPage entity, CommandLine.compile_searchAndCount registry entity⟩

end EntitySearch
