import EntitySearch.Json.Basic
import EntitySearch.Number.Shortest
import EntitySearch.Quoted

/-! Complaints about values of the wrong shape: what was found, and what was expected in its
place. -/
namespace EntitySearch.Json

/-- The kind of a value, with its scalar. Containers are not entered. -/
inductive Found where
  | null
  | bool (value : Bool)
  | number (value : Number)
  | string (value : String)
  | list
  | map

def found : Json → Found
  | .null => .null
  | .bool value => .bool value
  | .number value => .number value
  | .string value => .string value
  | .array _ => .list
  | .object _ => .map

def Found.description : Found → String
  | .null => "null"
  | .bool true => "boolean `true`"
  | .bool false => "boolean `false`"
  | .number (.integer n) => "integer `" ++ String.ofList n.text ++ "`"
  | .number (.float x) => "floating point `" ++ String.ofList x.text ++ "`"
  | .string s => "string " ++ quoted s
  | .list => "sequence"
  | .map => "map"

inductive ShapeError where
  | invalidType (found : Found) (expected : String)
  | invalidLength (length : Nat) (expected : String)
  | missingField (name : String)
  | duplicateField (name : String)

def ShapeError.message : ShapeError → String
  | .invalidType found expected =>
    "invalid type: " ++ found.description ++ ", expected " ++ expected
  | .invalidLength length expected =>
    "invalid length " ++ Nat.repr length ++ ", expected " ++ expected
  | .missingField name => "missing field `" ++ name ++ "`"
  | .duplicateField name => "duplicate field `" ++ name ++ "`"

def elementCount (n : Nat) : String :=
  if n = 1 then "1 element" else Nat.repr n ++ " elements"

end EntitySearch.Json
