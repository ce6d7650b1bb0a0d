import EntitySearch.Json.Basic

/-! Declarations: what an entity says about its searchable fields, in the shape of the index
mapping. A declaration may say anything; it is checked when it becomes a configuration. -/
namespace EntitySearch

/-- A declared property. Null prefix settings count as present. -/
structure Property where
  type : String
  prefixes : Option Json

/-- Declared index and properties in order. Names may occur twice: repetition is refused at
registration, not here. -/
structure Declaration where
  index : Option String
  properties : List (String × Property)

namespace Declaration

def empty : Declaration :=
  ⟨none, []⟩

def withIndex (declaration : Declaration) (index : String) : Declaration :=
  { declaration with index := some index }

def push (declaration : Declaration) (name : String) (property : Property) : Declaration :=
  { declaration with properties := declaration.properties ++ [(name, property)] }

def property (declaration : Declaration) (name type : String) : Declaration :=
  declaration.push name ⟨type, none⟩

def text (declaration : Declaration) (name : String) : Declaration :=
  declaration.property name "text"

def defaultPrefixes : Json :=
  .object [("min_chars", .ofUInt64 1), ("max_chars", .ofUInt64 10)]

def textWithPrefixes (declaration : Declaration) (name : String) : Declaration :=
  declaration.push name ⟨"text", some defaultPrefixes⟩

def keyword (declaration : Declaration) (name : String) : Declaration :=
  declaration.property name "keyword"

def boolean (declaration : Declaration) (name : String) : Declaration :=
  declaration.property name "boolean"

end Declaration

/-- Absent prefix settings are left out, null ones are written. -/
def Property.toJson (property : Property) : Json :=
  .object (("type", .string property.type) ::
    (property.prefixes.map fun settings => ("index_prefixes", settings)).toList)

def Declaration.members (declaration : Declaration) : List (String × Json) :=
  (declaration.index.map fun index => ("index", Json.string index)).toList ++
    [("esMapping", .object [("properties",
      .object (declaration.properties.map fun (name, property) => (name, property.toJson)))])]

/-- Repeated names of properties are written as repeated keys. -/
def Declaration.toJson (declaration : Declaration) : Json :=
  .object declaration.members

end EntitySearch
