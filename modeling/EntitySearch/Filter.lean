import EntitySearch.Error

/-! Filters: constraints on fields, all of which must hold. -/
namespace EntitySearch

inductive Tier where
  /-- The field must be declared, and the value must fit it. -/
  | known
  /-- Field and value are taken as they are. -/
  | raw
deriving DecidableEq

/-- Equality with a value, or with one of several. The empty choice constrains nothing. -/
inductive Condition where
  | equals (value : Json)
  | anyOf (values : List Json)

/-- An array lists alternatives. Any other value is compared as a whole. -/
def Condition.ofJson : Json → Condition
  | .array values => .anyOf values
  | value => .equals value

structure FilterEntry where
  field : String
  condition : Condition
  tier : Tier

structure FilterSet where
  entries : List FilterEntry

def unsupportedOperators : List String :=
  ["$gt", "$gte", "$lt", "$lte", "$ne", "$nin", "$not", "$regex", "$like", "$exists"]

def isUnsupportedOperator (key : String) : Bool :=
  unsupportedOperators.contains key

def isOperatorKey (key : String) : Bool :=
  key.toList.head? == some '$'

/-- First operator among the keys of an object. Neither lists nor members of the object are
searched. -/
def operatorIn? : Json → Option String
  | .object members => (members.find? fun (key, _) => isOperatorKey key).map (·.1)
  | _ => none

namespace FilterSet

def empty : FilterSet :=
  ⟨[]⟩

def push (filters : FilterSet) (entry : FilterEntry) : FilterSet :=
  ⟨filters.entries ++ [entry]⟩

def extend (filters other : FilterSet) : FilterSet :=
  ⟨filters.entries ++ other.entries⟩

def equals (filters : FilterSet) (field : String) (value : Json) : FilterSet :=
  filters.push ⟨field, .equals value, .known⟩

def anyOf (filters : FilterSet) (field : String) (values : List Json) : FilterSet :=
  filters.push ⟨field, .anyOf values, .known⟩

def rawEquals (filters : FilterSet) (field : String) (value : Json) : FilterSet :=
  filters.push ⟨field, .equals value, .raw⟩

def rawAnyOf (filters : FilterSet) (field : String) (values : List Json) : FilterSet :=
  filters.push ⟨field, .anyOf values, .raw⟩

def size (filters : FilterSet) : Nat :=
  filters.entries.length

def isEmpty (filters : FilterSet) : Bool :=
  filters.entries.isEmpty

/-- A member whose value is an object with operators is refused. -/
def entryOfMember (tier : Tier) (member : String × Json) : Except SearchError FilterEntry :=
  match operatorIn? member.2 with
  | some operator => .error (.unsupportedOperator operator member.1)
  | none => .ok ⟨member.1, .ofJson member.2, tier⟩

/-- Reads filters from null, which has none, or from an object. -/
def ofJson (tier : Tier) : Json → Except SearchError FilterSet
  | .null => .ok empty
  | .object members => do return ⟨← members.mapM (entryOfMember tier)⟩
  | value => .error (.validation (.malformedOption "filters" (.notObject value.kindName)))

end FilterSet

end EntitySearch
