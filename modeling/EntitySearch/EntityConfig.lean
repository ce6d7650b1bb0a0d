import EntitySearch.Declaration.Basic
import EntitySearch.Error
import EntitySearch.Unicode.Blank

/-! Configurations: declarations that have been checked. -/
namespace EntitySearch

/-- The searchable documents of an entity: their index, and their fields in declared order. -/
structure EntityConfig where
  entity : String
  index : String
  fields : List SearchField

namespace EntityConfig

/-- The first fault of a field. Only fields before it count as taken names. -/
def fieldFault? (entity : String) (earlier : List SearchField) (field : SearchField) :
    Option ConfigurationError :=
  if field.name = "" then
    some (.invalidDeclaration entity .unnamedField)
  else if earlier.any (·.name == field.name) then
    some (.duplicateField entity field.name)
  else if field.prefixes && field.kind != .text then
    some (.invalidDeclaration entity (.prefixesOn field.name field.kind))
  else
    none

def checkFields (entity : String) (earlier : List SearchField) :
    List SearchField → Except ConfigurationError Unit
  | [] => .ok ()
  | field :: rest =>
    match fieldFault? entity earlier field with
    | some error => .error error
    | none => checkFields entity (earlier ++ [field]) rest

/-- The declared index unless it is blank. A blank one is replaced rather than refused. -/
def indexName (entity : String) : Option String → String
  | some index => if Unicode.isBlankText index then entity else index
  | none => entity

def ofFields (entity : String) (index : Option String) (fields : List SearchField) :
    Except ConfigurationError EntityConfig := do
  if Unicode.isBlankText entity then
    .error (.invalidDeclaration entity .blankEntity)
  else
    checkFields entity [] fields
    return ⟨entity, indexName entity index, fields⟩

def fieldOfProperty (entity name : String) (property : Property) :
    Except ConfigurationError SearchField :=
  match FieldKind.ofName? property.type with
  | some kind => .ok ⟨name, kind, property.prefixes.isSome⟩
  | none => .error (.unsupportedFieldType entity name property.type)

/-- Types are checked first, for all properties, then the entity and the fields. -/
def ofDeclaration (entity : String) (declaration : Declaration) :
    Except ConfigurationError EntityConfig := do
  let fields ← declaration.properties.mapM fun (name, property) =>
    fieldOfProperty entity name property
  ofFields entity declaration.index fields

def field? (config : EntityConfig) (name : String) : Option SearchField :=
  config.fields.find? (·.name == name)

def textFields (config : EntityConfig) : List SearchField :=
  config.fields.filter (·.kind == .text)

def toJson (config : EntityConfig) : Json :=
  .object [
    ("entity_type", .string config.entity),
    ("index_name", .string config.index),
    ("fields", .array (config.fields.map fun field => .object [
      ("field_name", .string field.name),
      ("kind", .string field.kind.name),
      ("prefix_enabled", .bool field.prefixes)]))]

/-- Tabs separate entity, index and fields, and blanks separate the fields. -/
def describe (config : EntityConfig) : String :=
  config.entity ++ "\tindex=" ++ config.index ++ "\t" ++
    " ".intercalate (config.fields.map (·.describe))

end EntityConfig

end EntitySearch
