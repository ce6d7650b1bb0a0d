import EntitySearch.Declaration.Basic
import EntitySearch.Json.ValueSource

/-! Installable applications as a searchable entity. -/
namespace EntitySearch

open Json (Record Source ShapeError)

structure ApplicationIdentity where
  name : String
  description : String

/-- Whether an application is listed publicly, and whether its developer has asked for that. -/
structure ApplicationPublication where
  published : Bool
  requested : Bool

structure Application where
  id : String
  company : String
  identity : ApplicationIdentity
  publication : ApplicationPublication

namespace ApplicationIdentity

def format : Record Json ShapeError ApplicationIdentity where
  name := "ApplicationIdentity"
  blank := ⟨"", ""⟩
  fields := [
    ⟨"name", true, fun identity value => do
      return { identity with name := ← Json.wholeValue.string value }⟩,
    ⟨"description", false, fun identity value => do
      return { identity with description := ← Json.wholeValue.string value }⟩]
  other := none

def toJson (identity : ApplicationIdentity) : Json :=
  .object [("name", .string identity.name), ("description", .string identity.description)]

end ApplicationIdentity

namespace ApplicationPublication

def format : Record Json ShapeError ApplicationPublication where
  name := "ApplicationPublication"
  blank := ⟨false, false⟩
  fields := [
    ⟨"published", true, fun publication value => do
      return { publication with published := ← Json.wholeValue.boolean value }⟩,
    ⟨"requested", true, fun publication value => do
      return { publication with requested := ← Json.wholeValue.boolean value }⟩]
  other := none

def toJson (publication : ApplicationPublication) : Json :=
  .object [("published", .bool publication.published), ("requested", .bool publication.requested)]

end ApplicationPublication

namespace Application

def entity : String :=
  "applications"

def declaration : Declaration :=
  Declaration.empty
    |>.withIndex "applications"
    |>.textWithPrefixes "name"
    |>.text "description"
    |>.keyword "company_id"
    |>.boolean "published"

def documentMembers (application : Application) : List (String × Json) := [
  ("name", .string application.identity.name),
  ("description", .string application.identity.description),
  ("company_id", .string application.company),
  ("published", .bool application.publication.published)]

def document (application : Application) : Json :=
  .object application.documentMembers

def format : Record Json ShapeError Application where
  name := "Application"
  blank := ⟨"", "", ⟨"", ""⟩, ⟨false, false⟩⟩
  fields := [
    ⟨"id", true, fun application value => do
      return { application with id := ← Json.wholeValue.string value }⟩,
    ⟨"company_id", true, fun application value => do
      return { application with company := ← Json.wholeValue.string value }⟩,
    ⟨"identity", true, fun application value => do
      let identity ← Json.wholeValue.record ApplicationIdentity.format value
      return { application with identity }⟩,
    ⟨"publication", false, fun application value => do
      let publication ← Json.wholeValue.record ApplicationPublication.format value
      return { application with publication }⟩]
  other := none

def ofJson (value : Json) : Except ShapeError Application :=
  Json.wholeValue.record format value

def toJson (application : Application) : Json :=
  .object [
    ("id", .string application.id),
    ("company_id", .string application.company),
    ("identity", application.identity.toJson),
    ("publication", application.publication.toJson)]

end Application

end EntitySearch
