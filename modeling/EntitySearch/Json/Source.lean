import EntitySearch.Json.Shape

/-! Sources of values. A record can be read from a value in memory or from the text of one, and its
description is the same for both. A source says how its values are written and how reading them
can fail; a record says which fields it has. -/
namespace EntitySearch.Json

variable {σ ε : Type}

/-- A field of a record with how its value is read and stored. -/
structure Field (σ ε α : Type) where
  name : String
  required : Bool
  read : α → σ → Except ε α

/-- A record: the members of an object with the names of its fields, or an array of its fields in
order. `blank` holds what fields have that are left out. Other members are passed over, unless
`other` takes them; then an array cannot stand for the record. -/
structure Record (σ ε α : Type) where
  name : String
  blank : α
  fields : List (Field σ ε α)
  other : Option (α → String → σ → Except ε α)

namespace Record

variable {α : Type} (record : Record σ ε α)

def expected : String :=
  "struct " ++ record.name

def expectedLength : String :=
  record.expected ++ " with " ++ elementCount record.fields.length

/-- The first required field that is not among the given names. -/
def missing? (given : List String) : Option String :=
  (record.fields.find? fun field => field.required && !given.contains field.name).map (·.name)

end Record

/-- Reading values of type `σ`, with failures in `ε`. -/
structure Source (σ ε : Type) where
  /-- A failure because of the shape of a value. -/
  fail : ShapeError → ε
  /-- What a value is, seen from outside. -/
  found : σ → Except ε Found
  /-- A whole value; keys may repeat in it. -/
  value : σ → Except ε Json
  /-- The members of an object in order. -/
  entries : {α : Type} → String → (σ → Except ε α) → σ → Except ε (List (String × α))
  /-- A record. -/
  record : {α : Type} → Record σ ε α → σ → Except ε α

namespace Source

variable (source : Source σ ε)

def mismatch {α : Type} (found : Found) (expected : String) : Except ε α :=
  .error (source.fail (.invalidType found expected))

def string (value : σ) : Except ε String := do
  match ← source.found value with
  | .string text => return text
  | found => source.mismatch found "a string"

def boolean (value : σ) : Except ε Bool := do
  match ← source.found value with
  | .bool value => return value
  | found => source.mismatch found "a boolean"

def optional {α : Type} (read : σ → Except ε α) (value : σ) : Except ε (Option α) := do
  match ← source.found value with
  | .null => return none
  | _ => return some (← read value)

end Source

end EntitySearch.Json
