import EntitySearch.Declaration.Format
import EntitySearch.Error

/-! Loading declarations: an object with the declaration of each entity, or an array of declarations
that name their entities. A text is read member by member and nothing in it is merged, so what it
repeats is still repeated in the result. -/
namespace EntitySearch.Declaration

open Json (Place TextError)

def readWrittenList (room : Nat) : List Json.Tree → Except TextError (List (String × Declaration))
  | [] => .ok []
  | tree :: rest => do
    let named ← readNamed Json.textSource ⟨room, tree⟩
    return named :: (← readWrittenList room rest)

/-- An object has one member for each entity, an array one object that names it. Nothing else is
read. -/
def readWritten (place : Place) : Except TextError (List (String × Declaration)) := do
  match place.tree with
  | .object members ending =>
    let room ← Json.enter place.room
    let entries ← Json.readWrittenEntries room (read Json.textSource) members
    Json.wellFormed ending.check
    return entries
  | .list items ending =>
    let room ← Json.enter place.room
    let entries ← readWrittenList room items
    Json.wellFormed ending.check
    return entries
  | tree =>
    let found ← Json.wellFormed tree.found
    .error (.shape (.invalidType found "an object or array of search declarations"))

def readAll (text : String) : Except TextError (List (String × Declaration)) :=
  Json.readText readWritten text

/-- Entity under which a fault of the whole is reported. -/
def rootName : String :=
  "<root>"

def loadText (text : String) : Except ConfigurationError (List (String × Declaration)) :=
  (readAll text).mapError fun cause => .invalidDeclaration rootName (.text cause)

/-- Entity of an array item as messages name it, a placeholder where it names none. -/
def nameOf (item : Json) : String :=
  ((item.get? "entity").bind Json.string?).getD "<unnamed>"

def loadValue : Json → Except ConfigurationError (List (String × Declaration))
  | .object members => members.mapM fun (entity, value) => do
    let declaration ← (read Json.wholeValue value).mapError fun cause =>
      .invalidDeclaration entity (.shape cause)
    return (entity, declaration)
  | .array items => items.mapM fun item =>
    (readNamed Json.wholeValue item).mapError fun cause =>
      .invalidDeclaration (nameOf item) (.shape cause)
  | value => .error (.invalidDeclaration rootName (.notDeclarations value.kindName))

inductive FileState where
  | missing
  | directory
  | contents (bytes : ByteArray)

def loadFile (path : String) (file : FileState) :
    Except ConfigurationError (List (String × Declaration)) :=
  let failed (fault : FileFault) := Except.error (ConfigurationError.loadFailed path fault)
  match file with
  | .missing => failed .missing
  | .directory => failed .directory
  | .contents bytes =>
    match String.fromUTF8? bytes with
    | none => failed .notText
    | some text =>
      match readAll text with
      | .ok declarations => .ok declarations
      | .error cause => failed (.text cause)

end EntitySearch.Declaration
