import Std.Data.TreeSet
import EntitySearch.Options
import EntitySearch.Query.Compilation
import EntitySearch.Registry

/-! Assembling the query of a request: filters and options are compiled for an entity and put
together with the index to ask and a policy for asking. -/
namespace EntitySearch

/-- How a query is executed: statuses that count as an empty result, and retries of the
transport. -/
structure ExecutionPolicy where
  ignored : Std.TreeSet UInt16
  maxRetries : UInt32

namespace ExecutionPolicy

/-- A missing index counts as empty, and the transport is retried three times. -/
def standard : ExecutionPolicy :=
  ⟨(∅ : Std.TreeSet UInt16).insert 404, 3⟩

def ignoring (policy : ExecutionPolicy) (status : UInt16) : ExecutionPolicy :=
  { policy with ignored := policy.ignored.insert status }

/-- Whether a response of this status is no failure. -/
def tolerates (policy : ExecutionPolicy) (status : UInt16) : Bool :=
  policy.ignored.contains status

def toJson (policy : ExecutionPolicy) : Json :=
  .object [
    ("ignore", .array (policy.ignored.toList.map fun status => .ofUInt64 status.toUInt64)),
    ("max_retries", .ofUInt64 policy.maxRetries.toUInt64)]

end ExecutionPolicy

structure QueryDocument where
  root : BoolQuery
  page : Page

namespace QueryDocument

def bodyMembers (document : QueryDocument) : List (String × Json) :=
  ("query", .object [("bool", document.root.toJson)]) ::
    (document.page.limit.map fun limit => ("size", Json.ofUInt64 limit)).toList ++
    (document.page.offset.map fun offset => ("from", Json.ofUInt64 offset)).toList

def body (document : QueryDocument) : Json :=
  .object document.bodyMembers

/-- Query alone with a size of zero. The page is left out. -/
def countBody (document : QueryDocument) : Json :=
  .object (Json.put (Json.erase document.bodyMembers "from") "size" (.ofUInt64 0))

end QueryDocument

structure CompiledSearch where
  index : String
  document : QueryDocument
  policy : ExecutionPolicy

namespace CompiledSearch

def body (search : CompiledSearch) : Json :=
  search.document.body

def countBody (search : CompiledSearch) : Json :=
  search.document.countBody

/-- The compiled search around one of its bodies. -/
def toJsonWith (search : CompiledSearch) (body : Json) : Json :=
  .object [("index", .string search.index), ("body", body), ("options", search.policy.toJson)]

def toJson (search : CompiledSearch) : Json :=
  search.toJsonWith search.body

end CompiledSearch

def standardBoost : Binary64 :=
  ⟨false, 1023 <<< 52, by decide⟩

namespace Registry

/-- Compiles a typed request. Clauses of the filters come before those of the options; a text, if
given, must be found in some text field. -/
def assemble (registry : Registry) (entity : String) (filters : FilterSet)
    (options : SearchOptions) : Except SearchError CompiledSearch := do
  let config ← (registry.lookup entity).mapError .configuration
  let must ← compileFilters config (filters.extend options.filters)
  return {
    index := config.index
    document := {
      root := {
        must
        should := compileText config options.text
        minimumShouldMatch := options.text.map fun _ => 1
        boost := some standardBoost }
      page := options.page }
    policy := .standard }

/-- Parses filters, then options, and looks the entity up only after both. -/
def assembleJson (registry : Registry) (entity : String) (filters options : Json) :
    Except SearchError CompiledSearch := do
  let filters ← FilterSet.ofJson .known filters
  let options ← SearchOptions.ofJson options
  registry.assemble entity filters options

end Registry

end EntitySearch
