import EntitySearch.Declaration.Basic
import EntitySearch.Json.ValueSource

/-! The format of declarations, the same for every source. Keys that the format does not know are
passed over, and known ones may come in any order. -/
namespace EntitySearch

open Json (Source Record Field)

variable {σ ε : Type}

def Property.format (source : Source σ ε) : Record σ ε Property where
  name := "PropertyDeclaration"
  blank := ⟨"", none⟩
  fields := [
    { name := "type"
      required := true
      read := fun property value => do
        return { property with type := ← source.string value } },
    { name := "index_prefixes"
      required := false
      read := fun property value => do
        return { property with prefixes := some (← source.value value).collapse } }]
  other := none

def Declaration.mappingFormat (source : Source σ ε) : Record σ ε (List (String × Property)) where
  name := "EsMapping"
  blank := []
  fields := [
    { name := "properties"
      required := false
      read := fun _ value =>
        source.entries "a map of field names to property mappings"
          (source.record (Property.format source)) value }]
  other := none

def Declaration.format (source : Source σ ε) : Record σ ε Declaration where
  name := "SearchDeclaration"
  blank := .empty
  fields := [
    { name := "index"
      required := false
      read := fun declaration value => do
        return { declaration with index := ← source.optional source.string value } },
    { name := "esMapping"
      required := false
      read := fun declaration value => do
        let properties ← source.record (Declaration.mappingFormat source) value
        return { declaration with properties } }]
  other := none

/-- A declaration that names its entity. Members beside the name are set aside unread until the
object ends. -/
structure NamedDeclaration where
  entity : String
  kept : List (String × Json)

/-- The members set aside are kept last one first, which is how they are read again. -/
def NamedDeclaration.format (source : Source σ ε) : Record σ ε NamedDeclaration where
  name := "NamedDeclaration"
  blank := ⟨"", []⟩
  fields := [
    { name := "entity"
      required := true
      read := fun named value => do
        return { named with entity := ← source.string value } }]
  other := some fun named key value => do
    return { named with kept := (key, ← source.value value) :: named.kept }

def Declaration.read (source : Source σ ε) (value : σ) : Except ε Declaration :=
  source.record (Declaration.format source) value

def Declaration.readNamed (source : Source σ ε) (value : σ) : Except ε (String × Declaration) := do
  let named ← source.record (NamedDeclaration.format source) value
  let declaration ← (Declaration.read Json.keptValue (.object named.kept.reverse)).mapError source.fail
  return (named.entity, declaration)

end EntitySearch
