import EntitySearch.Number.Basic

/-! JSON values. Members of an object keep their order. The type itself lets a key occur twice, as a
text may; `collapse` gives the value that such a text stands for, in which each key occurs once. -/
namespace EntitySearch

inductive Json where
  | null
  | bool (value : Bool)
  | number (value : Number)
  | string (value : String)
  | array (items : List Json)
  | object (members : List (String × Json))

namespace Json

instance : Inhabited Json := ⟨.null⟩

def kindName : Json → String
  | .null => "null"
  | .bool _ => "boolean"
  | .number _ => "number"
  | .string _ => "string"
  | .array _ => "array"
  | .object _ => "object"

def get? (key : String) : Json → Option Json
  | .object members => members.lookup key
  | _ => none

def string? : Json → Option String
  | .string value => some value
  | _ => none

/-- Sets a key in place where it occurs, and appends it otherwise. -/
def put (members : List (String × Json)) (key : String) (value : Json) : List (String × Json) :=
  match members with
  | [] => [(key, value)]
  | (k, v) :: rest => if k == key then (k, value) :: rest else (k, v) :: put rest key value

/-- Removes the first member of a key by swapping the last member into its place. -/
def erase (members : List (String × Json)) (key : String) : List (String × Json) :=
  match members.findIdx? (·.1 == key), members.getLast? with
  | some place, some last => (members.set place last).dropLast
  | _, _ => members

mutual

/-- Merges repeated keys at every depth: each is kept where it occurs first, with the value it has
last. -/
def collapse : Json → Json
  | .null => .null
  | .bool value => .bool value
  | .number value => .number value
  | .string value => .string value
  | .array items => .array (collapseItems items)
  | .object members => .object (collapseMembers [] members)

def collapseItems : List Json → List Json
  | [] => []
  | item :: rest => item.collapse :: collapseItems rest

def collapseMembers (done : List (String × Json)) : List (String × Json) → List (String × Json)
  | [] => done
  | (key, value) :: rest => collapseMembers (put done key value.collapse) rest

end

def ofUInt64 (n : UInt64) : Json :=
  .number (.ofUInt64 n)

end Json

end EntitySearch
