import EntitySearch.Json.Reader
import EntitySearch.Json.Source

/-! Reading records from the text of values, in one pass: whatever stops the reader first, a fault
of the text or the shape of a value, is what it reports. -/
namespace EntitySearch.Json

inductive TextError where
  | malformed (cause : Malformed)
  | shape (cause : ShapeError)

/-- A complaint about a shape is placed in the text as well. The suffix ` at line L column C` is
left out of both, as in `Malformed.message`. -/
def TextError.message : TextError → String
  | .malformed cause => cause.message
  | .shape cause => cause.message

/-- A written value with the number of containers that may still be entered. -/
structure Place where
  room : Nat
  tree : Tree

def wellFormed {α : Type} (result : Except Malformed α) : Except TextError α :=
  result.mapError .malformed

/-- The kind of a written value. Containers are not entered, so a fault inside one is not
reported. -/
def Tree.found : Tree → Except Malformed Found
  | .null => .ok .null
  | .bool value => .ok (.bool value)
  | .number numeral => do return .number (← readNumber numeral)
  | .string text => do return .string (← text.read)
  | .list _ _ => .ok .list
  | .object _ _ => .ok .map
  | .fault cause => .error cause.onReading

def enter (room : Nat) : Except TextError Nat :=
  match room with
  | 0 => .error (.malformed .tooDeep)
  | room + 1 => .ok room

namespace Record

variable {α : Type} (record : Record Place TextError α)

/-- Reads written members in order; `given` names the fields that have been read. A repeated field
is refused at its key. -/
def readWrittenMembers (room : Nat) (given : List String) (state : α) :
    List (Quoted × Tree) → Except TextError (List String × α)
  | [] => .ok (given, state)
  | (key, tree) :: rest => do
    let key ← wellFormed key.read
    match record.fields.find? (·.name == key) with
    | some field =>
      if given.contains key then .error (.shape (.duplicateField key))
      else readWrittenMembers room (key :: given) (← field.read state ⟨room, tree⟩) rest
    | none =>
      match record.other with
      | some keep => readWrittenMembers room given (← keep state key ⟨room, tree⟩) rest
      | none =>
        wellFormed tree.skip
        readWrittenMembers room given state rest

/-- Behind the last field the array must end. A further item is reported as trailing characters. -/
def checkEnd : List Tree → ListEnding → Except TextError Unit
  | [], .separator | _ :: _, _ => .error (.malformed .trailingCharacters)
  | [], ending => wellFormed ending.check

/-- Reads items by position. Fields without an item keep their blank value unless they are
required. -/
def readWrittenItems (room index : Nat) (ending : ListEnding) (state : α) :
    List (Field Place TextError α) → List Tree → Except TextError α
  | [], rest => do
    checkEnd rest ending
    return state
  | field :: fields, [] => do
    wellFormed ending.check
    if field.required then .error (.shape (.invalidLength index record.expectedLength))
    else readWrittenItems room (index + 1) ending state fields []
  | field :: fields, tree :: rest => do
    readWrittenItems room (index + 1) ending (← field.read state ⟨room, tree⟩) fields rest

def ofPlace (place : Place) : Except TextError α := do
  match place.tree with
  | .object members ending =>
    let room ← enter place.room
    let (given, state) ← record.readWrittenMembers room [] record.blank members
    wellFormed ending.check
    match record.missing? given with
    | some name => .error (.shape (.missingField name))
    | none => return state
  | .list items ending =>
    if record.other.isSome then
      .error (.shape (.invalidType .list record.expected))
    else
      let room ← enter place.room
      record.readWrittenItems room 0 ending record.blank record.fields items
  | tree =>
    let found ← wellFormed tree.found
    .error (.shape (.invalidType found record.expected))

end Record

def readWrittenEntries {α : Type} (room : Nat) (read : Place → Except TextError α) :
    List (Quoted × Tree) → Except TextError (List (String × α))
  | [] => .ok []
  | (key, tree) :: rest => do
    let key ← wellFormed key.read
    let value ← read ⟨room, tree⟩
    return (key, value) :: (← readWrittenEntries room read rest)

def writtenEntries {α : Type} (expected : String) (read : Place → Except TextError α)
    (place : Place) : Except TextError (List (String × α)) := do
  match place.tree with
  | .object members ending =>
    let room ← enter place.room
    let entries ← readWrittenEntries room read members
    wellFormed ending.check
    return entries
  | tree =>
    let found ← wellFormed tree.found
    .error (.shape (.invalidType found expected))

def textSource : Source Place TextError where
  fail := .shape
  found place := wellFormed place.tree.found
  value place := wellFormed (place.tree.read place.room)
  entries := writtenEntries
  record := fun record place => record.ofPlace place

/-- Reads the whole of a text. What follows the value is refused after the value has been read. -/
def readText {α : Type} (read : Place → Except TextError α) (text : String) :
    Except TextError α := do
  let document := Document.ofText text
  let value ← read ⟨depthLimit, document.root⟩
  if document.surplus then .error (.malformed .trailingCharacters) else return value

end EntitySearch.Json
