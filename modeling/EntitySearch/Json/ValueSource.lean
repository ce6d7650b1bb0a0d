import EntitySearch.Json.Source

/-! Reading records from values in memory. -/
namespace EntitySearch.Json

/-- Wording for an array with more items than a record has fields, from its length and theirs. -/
abbrev SurplusWording := Nat → Nat → ShapeError

/-- Wording for a value of its own. The number of fields is not told. -/
def wholeSurplus : SurplusWording := fun length _ =>
  .invalidLength length "fewer elements in array"

/-- Wording for a value that was set aside with its object. The number of fields is what was
expected. -/
def keptSurplus : SurplusWording := fun length fields =>
  .invalidLength length (elementCount fields ++ " in sequence")

namespace Record

variable {α : Type} (record : Record Json ShapeError α)

/-- Reads members in order; `given` names the fields that have been read. -/
def readMembers (given : List String) (state : α) :
    List (String × Json) → Except ShapeError (List String × α)
  | [] => .ok (given, state)
  | (key, value) :: rest =>
    match record.fields.find? (·.name == key) with
    | some field =>
      if given.contains key then .error (.duplicateField key)
      else do readMembers (key :: given) (← field.read state value) rest
    | none =>
      match record.other with
      | some keep => do readMembers given (← keep state key value) rest
      | none => readMembers given state rest

/-- Reads items as the values of the fields in order. Fields that an array is too short for keep
their blank values, unless they are required. -/
def readItems (index : Nat) (state : α) :
    List (Field Json ShapeError α) → List Json → Except ShapeError α
  | [], _ => .ok state
  | field :: fields, [] =>
    if field.required then .error (.invalidLength index record.expectedLength)
    else readItems (index + 1) state fields []
  | field :: fields, value :: rest => do
    readItems (index + 1) (← field.read state value) fields rest

def ofValue (surplus : SurplusWording) : Json → Except ShapeError α
  | .object members => do
    let (given, state) ← record.readMembers [] record.blank members
    match record.missing? given with
    | some name => .error (.missingField name)
    | none => return state
  | .array items =>
    if record.other.isSome then .error (.invalidType .list record.expected)
    else do
      let state ← record.readItems 0 record.blank record.fields items
      if items.length ≤ record.fields.length then return state
      else .error (surplus items.length record.fields.length)
  | value => .error (.invalidType value.found record.expected)

end Record

def readEntries {α : Type} (read : Json → Except ShapeError α) :
    List (String × Json) → Except ShapeError (List (String × α))
  | [] => .ok []
  | (key, value) :: rest => do
    let value ← read value
    return (key, value) :: (← readEntries read rest)

def valueSource (surplus : SurplusWording) : Source Json ShapeError where
  fail := id
  found value := .ok value.found
  value := .ok
  entries expected read
    | .object members => readEntries read members
    | value => .error (.invalidType value.found expected)
  record := fun record value => record.ofValue surplus value

def wholeValue : Source Json ShapeError :=
  valueSource wholeSurplus

def keptValue : Source Json ShapeError :=
  valueSource keptSurplus

def listOf {α : Type} (read : Json → Except ShapeError α) : Json → Except ShapeError (List α)
  | .array items => items.mapM read
  | value => .error (.invalidType value.found "a sequence")

end EntitySearch.Json
