import EntitySearch.Json.TextSource
import EntitySearch.Json.Writer
import EntitySearch.SearchField

/-! Everything that can go wrong, as causes with a message each. None of it is worth a second try,
since all of it follows from the input. -/
namespace EntitySearch

inductive DeclarationFault where
  | blankEntity
  | unnamedField
  | prefixesOn (field : String) (kind : FieldKind)
  | shape (cause : Json.ShapeError)
  | text (cause : Json.TextError)
  | notDeclarations (kindName : String)

/-- A text is called invalid JSON where the reader itself complains, and an invalid declaration
where the shape of a value does. A surplus item of a positional list is a complaint of the reader
(`Malformed.trailingCharacters`), so a well-formed text that holds one is called invalid JSON; read
from a value, the same list is an invalid declaration. -/
def describeTextError : Json.TextError → String
  | .malformed cause => "Invalid JSON: " ++ cause.message
  | .shape cause => "Invalid declaration: " ++ cause.message

def DeclarationFault.message : DeclarationFault → String
  | .blankEntity => "entity type must not be empty"
  | .unnamedField => "field names must not be empty"
  | .prefixesOn field kind =>
    "index_prefixes is only allowed on text fields, '" ++ field ++ "' is " ++ kind.name
  | .shape cause => cause.message
  | .text cause => describeTextError cause
  | .notDeclarations kindName =>
    "expected an object or array of declarations, found " ++ kindName

inductive FileFault where
  | missing
  | directory
  | notText
  | text (cause : Json.TextError)

def FileFault.message : FileFault → String
  | .missing => "No such file or directory (os error 2)"
  | .directory => "Is a directory (os error 21)"
  | .notText => "stream did not contain valid UTF-8"
  | .text cause => describeTextError cause

inductive ConfigurationError where
  | unknownEntity (entity : String)
  | duplicateEntity (entity : String)
  | duplicateField (entity field : String)
  | unsupportedFieldType (entity field type : String)
  | invalidDeclaration (entity : String) (fault : DeclarationFault)
  | loadFailed (path : String) (fault : FileFault)

def ConfigurationError.message : ConfigurationError → String
  | .unknownEntity entity =>
    "no search configuration registered for entity type '" ++ entity ++ "'"
  | .duplicateEntity entity =>
    "search configuration for entity type '" ++ entity ++ "' already registered"
  | .duplicateField entity field =>
    "field '" ++ field ++ "' declared more than once for entity type '" ++ entity ++ "'"
  | .unsupportedFieldType entity field type =>
    "field '" ++ field ++ "' of entity type '" ++ entity ++ "' has unsupported type '" ++ type ++ "'"
  | .invalidDeclaration entity fault =>
    "invalid search declaration for '" ++ entity ++ "': " ++ fault.message
  | .loadFailed path fault =>
    "failed to load search declarations from '" ++ path ++ "': " ++ fault.message

inductive ValueFault where
  | notScalar (kindName : String)
  | notBoolean (kindName : String)

def ValueFault.message : ValueFault → String
  | .notScalar kindName => "expected a scalar, found " ++ kindName
  | .notBoolean kindName => "boolean field requires a boolean, found " ++ kindName

inductive OptionFault where
  | notObject (kindName : String)
  | notPairs
  | notPair (index : Nat) (entry : Json)
  | notTextQuery
  | termNotString (kindName : String)
  | countNumber (value : Number)
  | countString (value : String)
  | countKind (kindName : String)
  | zeroLimit

def OptionFault.message : OptionFault → String
  | .notObject kindName => "expected an object, found " ++ kindName
  | .notPairs => "expected a list of [field, values] pairs"
  | .notPair index entry =>
    "entry " ++ Nat.repr index ++ " is not a [field, values] pair: " ++ entry.compact
  | .notTextQuery => "expected an object with a $search term"
  | .termNotString kindName => "$search must be a string, found " ++ kindName
  | .countNumber value =>
    "expected a non-negative integer, found " ++ String.ofList value.text
  | .countString value => "expected a non-negative integer, found '" ++ value ++ "'"
  | .countKind kindName => "expected a non-negative integer, found " ++ kindName
  | .zeroLimit => "must be greater than zero"

inductive ValidationError where
  | unknownField (entity field : String)
  | invalidValue (field : String) (fault : ValueFault)
  | malformedOption (option : String) (fault : OptionFault)

def ValidationError.message : ValidationError → String
  | .unknownField entity field =>
    "unknown field '" ++ field ++ "' for entity type '" ++ entity ++ "'"
  | .invalidValue field fault => "invalid value for field '" ++ field ++ "': " ++ fault.message
  | .malformedOption option fault => "malformed option '" ++ option ++ "': " ++ fault.message

inductive SearchError where
  | configuration (cause : ConfigurationError)
  | unsupportedOperator (operator field : String)
  | validation (cause : ValidationError)

namespace SearchError

def message : SearchError → String
  | .configuration cause => cause.message
  | .unsupportedOperator operator field =>
    "unsupported filter operator '" ++ operator ++ "' on '" ++ field ++ "'"
  | .validation cause => cause.message

/-- Status under which a caller reports the error: 500 for configuration, 400 for a request. -/
def status : SearchError → Nat
  | .configuration _ => 500
  | .unsupportedOperator _ _ | .validation _ => 400

/-- No error is transient, since each is determined by the input. -/
def isRetryable (_ : SearchError) : Bool :=
  false

end SearchError

end EntitySearch
