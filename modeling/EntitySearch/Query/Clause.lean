import EntitySearch.Json.Basic

/-! Clauses of a query, and the JSON by which the search backend knows them. -/
namespace EntitySearch

mutual

inductive Clause where
  /-- The field matches a value; with `allTerms` every word of it must be found. -/
  | matching (field : String) (query : Json) (allTerms : Bool)
  /-- The field holds a word that begins so. -/
  | beginning (field value : String)
  /-- A boolean combination. -/
  | group (query : BoolQuery)

/-- All of `must` and at least `minimumShouldMatch` of `should` have to hold. The boost affects
ranking alone. -/
structure BoolQuery where
  must : List Clause
  should : List Clause
  minimumShouldMatch : Option UInt32
  boost : Option Binary64

end

instance : Inhabited BoolQuery := ⟨⟨[], [], none, none⟩⟩

instance : Inhabited Clause := ⟨.group default⟩

namespace Clause

def equality (field : String) (value : Json) : Clause :=
  .matching field value true

def textMatch (field term : String) : Clause :=
  .matching field (.string term) false

def anyOf (field : String) (values : List Json) : Clause :=
  .group ⟨[], values.map (equality field), some 1, none⟩

end Clause

/-- A branch as a member, left out when it is empty. -/
def branchMember (name : String) : List Json → List (String × Json)
  | [] => []
  | clauses => [(name, .array clauses)]

mutual

def Clause.toJson : Clause → Json
  | .matching field query allTerms =>
    .object [("match", .object [(field, .object (("query", query) ::
      if allTerms then [("operator", .string "AND")] else []))])]
  | .beginning field value =>
    .object [("prefix", .object [(field, .object [("value", .string value)])])]
  | .group query => .object [("bool", query.toJson)]

/-- Empty branches and unset parameters are left out. -/
def BoolQuery.toJson : BoolQuery → Json
  | ⟨must, should, minimumShouldMatch, boost⟩ =>
    .object ((boost.map fun x => ("boost", Json.number (.float x))).toList ++
      branchMember "must" (clausesToJson must) ++
      branchMember "should" (clausesToJson should) ++
      (minimumShouldMatch.map fun n =>
        ("minimum_should_match", Json.ofUInt64 n.toUInt64)).toList)

def clausesToJson : List Clause → List Json
  | [] => []
  | clause :: rest => clause.toJson :: clausesToJson rest

end

end EntitySearch
