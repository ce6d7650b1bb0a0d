import EntitySearch.Proofs.OperatorSafety
import EntitySearch.Proofs.QueryMeaning

/-! Reading written queries back. What is left out of a written query is known from what is there,
so it tells exactly which clauses it was written from. -/
namespace EntitySearch

def BoolQuery.members (query : BoolQuery) : List (String × Json) :=
  (query.boost.map fun x => ("boost", Json.number (.float x))).toList ++
    branchMember "must" (clausesToJson query.must) ++
    branchMember "should" (clausesToJson query.should) ++
    (query.minimumShouldMatch.map fun n =>
      ("minimum_should_match", Json.ofUInt64 n.toUInt64)).toList

theorem BoolQuery.toJson_eq (query : BoolQuery) : query.toJson = .object query.members := by
  obtain ⟨must, should, minimum, boost⟩ := query
  rw [BoolQuery.toJson, BoolQuery.members]

theorem clausesToJson_eq_map (clauses : List Clause) :
    clausesToJson clauses = clauses.map Clause.toJson := by
  induction clauses with
  | nil => rfl
  | cons clause rest ih => rw [clausesToJson, ih, List.map_cons]

/-- A branch is found under its own name unless it is empty. -/
theorem lookup_branchMember_self (name : String) (clauses : List Json) :
    (branchMember name clauses).lookup name =
      if clauses.isEmpty then none else some (.array clauses) := by
  cases clauses <;> simp [branchMember]

section Members

variable (query : BoolQuery)

theorem BoolQuery.lookup_must : query.members.lookup "must" =
    if (clausesToJson query.must).isEmpty then none
    else some (.array (clausesToJson query.must)) := by
  simp [members, List.lookup_append, lookup_branchMember_self, Json.lookup_branchMember,
    Json.lookup_setting]

theorem BoolQuery.lookup_should : query.members.lookup "should" =
    if (clausesToJson query.should).isEmpty then none
    else some (.array (clausesToJson query.should)) := by
  simp [members, List.lookup_append, lookup_branchMember_self, Json.lookup_branchMember,
    Json.lookup_setting]

theorem BoolQuery.lookup_minimum : query.members.lookup "minimum_should_match" =
    query.minimumShouldMatch.map fun n => Json.ofUInt64 n.toUInt64 := by
  simp [members, List.lookup_append, Json.lookup_branchMember, Json.lookup_setting]

theorem BoolQuery.lookup_boost : query.members.lookup "boost" =
    query.boost.map fun x => Json.number (.float x) := by
  simp [members, List.lookup_append, Json.lookup_branchMember, Json.lookup_setting]

end Members

namespace Json

/-- Reads a match. An operator, whichever it is, marks that all terms are asked for. -/
def match? : Json → Option Clause
  | .object [(field, .object parameters)] =>
    (parameters.lookup "query").map fun query =>
      .matching field query (parameters.lookup "operator").isSome
  | _ => none

def prefix? : Json → Option Clause
  | .object [(field, .object parameters)] =>
    ((parameters.lookup "value").bind string?).map (.beginning field)
  | _ => none

def minimum? : Json → Option UInt32
  | .number (.integer n) => some (UInt32.ofNat n.value.toNat)
  | _ => none

def boost? : Json → Option Binary64
  | .number (.float x) => some x
  | _ => none

mutual

def clause? : Json → Option Clause
  | .object [(kind, operand)] =>
    if kind = "match" then match? operand
    else if kind = "prefix" then prefix? operand
    else if kind = "bool" then (boolQuery? operand).map .group
    else none
  | _ => none

/-- Reads a combination. Its members may stand in any order. -/
def boolQuery? : Json → Option BoolQuery
  | .object members => do
    return {
      must := ← branch? "must" members
      should := ← branch? "should" members
      minimumShouldMatch := (members.lookup "minimum_should_match").bind minimum?
      boost := (members.lookup "boost").bind boost? }
  | _ => none

/-- Clauses of a branch. An absent branch is read as empty. -/
def branch? (name : String) : List (String × Json) → Option (List Clause)
  | [] => some []
  | (key, branch) :: rest => if name = key then elements? branch else branch? name rest

def elements? : Json → Option (List Clause)
  | .array values => clauses? values
  | _ => none

def clauses? : List Json → Option (List Clause)
  | [] => some []
  | value :: rest => do return (← clause? value) :: (← clauses? rest)

end

/-- Only the first member of a name is read as a branch. An absent one is read as empty. -/
theorem branch?_eq (name : String) (members : List (String × Json)) :
    branch? name members = ((members.lookup name).map elements?).getD (some []) := by
  induction members with
  | nil => rfl
  | cons member rest ih =>
      obtain ⟨key, branch⟩ := member
      by_cases hName : name = key
      · simp [branch?, hName]
      · simp [branch?, List.lookup_cons, hName, beq_eq_false_iff_ne.mpr hName, ih]

/-- Reading a branch inverts writing it, also where it is omitted for being empty. -/
theorem branch?_of_lookup {name : String} {members : List (String × Json)} {values : List Json}
    (h : members.lookup name = if values.isEmpty then none else some (.array values)) :
    branch? name members = clauses? values := by
  rw [branch?_eq, h]
  cases values with
  | nil => simp [clauses?]
  | cons value rest => simp [elements?]

/-- A written minimum is read back, and so is an absent one. -/
theorem minimum?_written (minimum : Option UInt32) :
    (minimum.map fun n => ofUInt64 n.toUInt64).bind minimum? = minimum := by
  cases minimum with
  | none => rfl
  | some n => simp [minimum?, ofUInt64, Number.ofUInt64, WordInt.ofUInt64]

/-- A written boost is read back bit for bit. Boosts are finite by their type. -/
theorem boost?_written (boost : Option Binary64) :
    (boost.map fun x => Json.number (.float x)).bind boost? = boost := by
  cases boost <;> rfl

mutual

/-- Mutual induction with `boolQuery?_toJson` and `clauses?_clausesToJson`: reading inverts writing
on clauses. -/
theorem clause?_toJson : ∀ clause : Clause, clause? clause.toJson = some clause
  | .matching field query allTerms => by
      cases allTerms <;> simp [Clause.toJson, clause?, match?, List.lookup_cons]
  | .beginning field value => by
      simp [Clause.toJson, clause?, prefix?, string?]
  | .group query => by
      simp [Clause.toJson, clause?, boolQuery?_toJson query]

/-- Reading inverts writing on combinations, with all four parts. -/
theorem boolQuery?_toJson : ∀ query : BoolQuery, boolQuery? query.toJson = some query
  | ⟨must, should, minimum, boost⟩ => by
      have hMust := branch?_of_lookup (BoolQuery.lookup_must ⟨must, should, minimum, boost⟩)
      have hShould := branch?_of_lookup (BoolQuery.lookup_should ⟨must, should, minimum, boost⟩)
      rw [BoolQuery.toJson_eq, boolQuery?, hMust, hShould, clauses?_clausesToJson must,
        clauses?_clausesToJson should, BoolQuery.lookup_minimum, BoolQuery.lookup_boost,
        minimum?_written, boost?_written]
      rfl

theorem clauses?_clausesToJson : ∀ clauses : List Clause,
    clauses? (clausesToJson clauses) = some clauses
  | [] => rfl
  | clause :: rest => by
      rw [clausesToJson, clauses?, clause?_toJson clause, clauses?_clausesToJson rest]
      rfl

end

end Json

section Bodies

variable {clause : Clause} {query : BoolQuery}

/-- Clauses of a combination written under this name. -/
def BoolQuery.Branch (query : BoolQuery) (name : String) (clauses : List Clause) : Prop :=
  name = "must" ∧ clauses = query.must ∨ name = "should" ∧ clauses = query.should

/-- What lies in a clause of a branch lies in its combination. -/
theorem BoolQuery.Branch.within {inner : Clause} {name : String} {clauses : List Clause}
    (hBranch : query.Branch name clauses) (hClause : clause ∈ clauses)
    (h : inner.Within clause) : inner.Within (.group query) := by
  obtain ⟨_, rfl⟩ | ⟨_, rfl⟩ := hBranch
  · exact .must hClause h
  · exact .should hClause h

theorem array_mem_branchMember_iff {name key : String} {values clauses : List Json} :
    (name, .array values) ∈ branchMember key clauses ↔
      name = key ∧ values = clauses ∧ clauses ≠ [] := by
  cases clauses <;> simp [branchMember]

/-- No setting is written as an array, so arrays among the members are branches. -/
theorem array_not_mem_setting {α : Type} (name key : String) (values : List Json)
    (setting : Option α) (write : α → Json) (hWrite : ∀ x, write x ≠ .array values) :
    (name, .array values) ∉ (setting.map fun x => (key, write x)).toList := by
  cases setting with
  | none => simp
  | some x => simp [(hWrite x).symm]

/-- The arrays among the members of a written combination are exactly its nonempty branches. -/
theorem BoolQuery.array_mem_members_iff {name : String} {values : List Json} :
    (name, .array values) ∈ query.members ↔
      ∃ clauses, query.Branch name clauses ∧ clauses ≠ [] ∧ values = clauses.map Clause.toJson := by
  have hBoost := array_not_mem_setting name "boost" values query.boost
    (fun x => Json.number (.float x)) nofun
  have hMinimum := array_not_mem_setting name "minimum_should_match" values
    query.minimumShouldMatch (fun n => Json.ofUInt64 n.toUInt64) nofun
  simp only [members, List.mem_append, hBoost, hMinimum, array_mem_branchMember_iff, false_or,
    or_false, clausesToJson_eq_map, ne_eq, List.map_eq_nil_iff, Branch]
  constructor
  · rintro (⟨hName, hValues, hSome⟩ | ⟨hName, hValues, hSome⟩)
    · exact ⟨query.must, .inl ⟨hName, rfl⟩, hSome, hValues⟩
    · exact ⟨query.should, .inr ⟨hName, rfl⟩, hSome, hValues⟩
  · rintro ⟨_, ⟨hName, rfl⟩ | ⟨hName, rfl⟩, hSome, hValues⟩
    · exact .inl ⟨hName, hValues, hSome⟩
    · exact .inr ⟨hName, hValues, hSome⟩

/-- Body of a combination inside a written clause, at any depth. Values in matches are not
entered. -/
inductive Json.BodyIn (body : Json) : Json → Prop where
  | whole : BodyIn body (.object [("bool", body)])
  | branch {members : List (String × Json)} {name : String} {values : List Json} {value : Json}
      (hBranch : (name, .array values) ∈ members) (hValue : value ∈ values)
      (h : BodyIn body value) : BodyIn body (.object [("bool", .object members)])

theorem BoolQuery.Branch.bodyIn {body : Json} {name : String} {clauses : List Clause}
    (hBranch : query.Branch name clauses) (hClause : clause ∈ clauses)
    (h : body.BodyIn clause.toJson) : body.BodyIn (Clause.group query).toJson := by
  have hMember : (name, .array (clauses.map Clause.toJson)) ∈ query.members :=
    array_mem_members_iff.mpr ⟨clauses, hBranch, List.ne_nil_of_mem hClause, rfl⟩
  rw [Clause.toJson, toJson_eq query]
  exact .branch hMember (List.mem_map_of_mem hClause) h

/-- Every combination inside a clause has its body inside the written clause. -/
theorem Clause.Within.bodyIn (h : Clause.Within (.group query) clause) :
    query.toJson.BodyIn clause.toJson := by
  induction h with
  | self => exact .whole
  | must hClause _ ih => exact BoolQuery.Branch.bodyIn (.inl ⟨rfl, rfl⟩) hClause ih
  | should hClause _ ih => exact BoolQuery.Branch.bodyIn (.inr ⟨rfl, rfl⟩) hClause ih

/-- Conversely, every body inside a written clause is that of a combination in it. Values in matches
are never entered. -/
theorem Json.BodyIn.exists_within {body written : Json} (h : body.BodyIn written)
    (hWritten : written = clause.toJson) :
    ∃ query, Clause.Within (.group query) clause ∧ body = query.toJson := by
  induction h generalizing clause with
  | whole =>
      cases clause with
      | matching | beginning => simp [Clause.toJson] at hWritten
      | group query => exact ⟨query, .self, by simpa [Clause.toJson] using hWritten⟩
  | branch hBranch hValue _ ih =>
      cases clause with
      | matching | beginning => simp [Clause.toJson] at hWritten
      | group query =>
          simp only [Clause.toJson, BoolQuery.toJson_eq, Json.object.injEq, List.cons.injEq,
            Prod.mk.injEq, true_and, and_true] at hWritten
          rw [hWritten] at hBranch
          obtain ⟨clauses, hClauses, _, rfl⟩ := BoolQuery.array_mem_members_iff.mp hBranch
          obtain ⟨part, hPart, hInner⟩ := List.mem_map.mp hValue
          obtain ⟨inner, hWithin, hBody⟩ := ih hInner.symm
          exact ⟨inner, hClauses.within hPart hWithin, hBody⟩

/-- The two directions together: bodies inside a written clause are exactly the written combinations
in it. -/
theorem bodyIn_toJson_iff {body : Json} :
    body.BodyIn clause.toJson ↔
      ∃ query, Clause.Within (.group query) clause ∧ body = query.toJson := by
  constructor
  · intro h
    exact h.exists_within rfl
  · rintro ⟨query, hWithin, rfl⟩
    exact hWithin.bodyIn

/-- No branch of a written combination is an empty array. -/
theorem BoolQuery.get?_toJson_ne_empty (name : String) :
    query.toJson.get? name ≠ some (.array []) := by
  intro hEmpty
  rw [toJson_eq, Json.get?, List.lookup_eq_some_iff] at hEmpty
  obtain ⟨before, after, hMembers, _⟩ := hEmpty
  have hMember : (name, .array []) ∈ query.members := by simp [hMembers]
  obtain ⟨clauses, _, hSome, hNone⟩ := array_mem_members_iff.mp hMember
  exact hSome (List.map_eq_nil_iff.mp hNone.symm)

end Bodies

/-- Writing is injective on queries and clauses, by a reader that inverts it for all names and
values. No combination at any depth is written with an empty branch. -/
theorem toJson_lossless :
    (∀ clause, Json.clause? clause.toJson = some clause) ∧
    (∀ query, Json.boolQuery? query.toJson = some query) ∧
    Function.Injective Clause.toJson ∧ Function.Injective BoolQuery.toJson ∧
    ∀ (clause : Clause) (body : Json), body.BodyIn clause.toJson →
      ∀ name, body.get? name ≠ some (.array []) := by
  refine ⟨Json.clause?_toJson, Json.boolQuery?_toJson, ?_, ?_, ?_⟩
  · intro first second h
    apply Option.some.inj
    rw [← Json.clause?_toJson first, h, Json.clause?_toJson second]
  · intro first second h
    apply Option.some.inj
    rw [← Json.boolQuery?_toJson first, h, Json.boolQuery?_toJson second]
  · intro clause body hBody name
    obtain ⟨query, _, rfl⟩ := bodyIn_toJson_iff.mp hBody
    exact query.get?_toJson_ne_empty name

/-- A combination without `must` that matches a value with an empty one in it. -/
def emptyMustQuery : BoolQuery :=
  ⟨[], [.matching "must" (.object [("bool", .object [("must", .array [])])]) true], some 0, none⟩

def nestedClause : Clause :=
  .group ⟨[.group emptyMustQuery], [], none, some standardBoost⟩

theorem nestedClause_read :
    Json.clause? nestedClause.toJson = some nestedClause ∧
      emptyMustQuery.toJson.BodyIn nestedClause.toJson ∧
      emptyMustQuery.toJson.get? "must" ≠ some (.array []) := by
  obtain ⟨hRead, _, _, _, hBranches⟩ := toJson_lossless
  have hWithin : Clause.Within (.group emptyMustQuery) nestedClause :=
    .must (List.mem_singleton_self _) .self
  exact ⟨hRead nestedClause, hWithin.bodyIn, hBranches nestedClause _ hWithin.bodyIn "must"⟩

end EntitySearch
