import EntitySearch.EntityConfig
import EntitySearch.Filter
import EntitySearch.Query.Clause
import EntitySearch.Term

/-! Compiling filters and texts into clauses, given the configuration of an entity. -/
namespace EntitySearch

/-- An object with an operator is refused for it, before the kind of the field is looked at. -/
def checkValue (field : SearchField) (value : Json) : Except SearchError Unit :=
  let invalid (fault : ValueFault) :=
    Except.error (SearchError.validation (.invalidValue field.name fault))
  match value with
  | .object _ =>
    match operatorIn? value with
    | some operator => .error (.unsupportedOperator operator field.name)
    | none => invalid (.notScalar value.kindName)
  | .null | .array _ => invalid (.notScalar value.kindName)
  | .bool _ => .ok ()
  | .string _ | .number _ =>
    if field.kind = .boolean then invalid (.notBoolean value.kindName) else .ok ()

def checkValues (field : SearchField) : List Json → Except SearchError Unit
  | [] => .ok ()
  | value :: rest => do
    checkValue field value
    checkValues field rest

def Condition.values : Condition → List Json
  | .equals value => [value]
  | .anyOf values => values

/-- Raw entries are not checked at all. Any other needs a declared field, even for an empty
choice. -/
def checkEntry (config : EntityConfig) (entry : FilterEntry) : Except SearchError Unit :=
  match entry.tier with
  | .raw => .ok ()
  | .known =>
    match config.field? entry.field with
    | none => .error (.validation (.unknownField config.entity entry.field))
    | some field => checkValues field entry.condition.values

/-- A choice among no values has no clause. -/
def Condition.clause? (field : String) : Condition → Option Clause
  | .equals value => some (.equality field value)
  | .anyOf [] => none
  | .anyOf values => some (.anyOf field values)

/-- Each entry is checked before it is compiled, and its errors hide those of later entries. -/
def compileEntries (config : EntityConfig) : List FilterEntry → Except SearchError (List Clause)
  | [] => .ok []
  | entry :: rest => do
    checkEntry config entry
    let clauses ← compileEntries config rest
    return (entry.condition.clause? entry.field).toList ++ clauses

def compileFilters (config : EntityConfig) (filters : FilterSet) :
    Except SearchError (List Clause) :=
  compileEntries config filters.entries

/-- A match for a text field, with a prefix clause behind it where prefixes are kept. -/
def textClauses (term : String) (field : SearchField) : List Clause :=
  .textMatch field.name term :: if field.prefixes then [.beginning field.name term] else []

/-- Clauses of which one must hold. There are none without a text or without text fields. -/
def compileText (config : EntityConfig) : Option String → List Clause
  | none => []
  | some text => config.textFields.flatMap (textClauses (Term.normalize text))

end EntitySearch
