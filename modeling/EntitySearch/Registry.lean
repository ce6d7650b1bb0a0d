import Std.Data.TreeMap
import EntitySearch.EntityConfig
import EntitySearch.Quoted

/-! The registry of configurations. An entity is registered once; registering it again fails and
changes nothing. Listings are in the order of the code points of the names. -/
namespace EntitySearch

/-- Configurations by entity, each stored under its own name. -/
structure Registry where
  configs : Std.TreeMap String EntityConfig

namespace Registry

def empty : Registry :=
  ⟨∅⟩

def size (registry : Registry) : Nat :=
  registry.configs.size

def isEmpty (registry : Registry) : Bool :=
  registry.configs.isEmpty

def contains (registry : Registry) (entity : String) : Bool :=
  registry.configs.contains entity

def get? (registry : Registry) (entity : String) : Option EntityConfig :=
  registry.configs[entity]?

def lookup (registry : Registry) (entity : String) : Except ConfigurationError EntityConfig :=
  match registry.get? entity with
  | some config => .ok config
  | none => .error (.unknownEntity entity)

/-- Adds a configuration that has been checked before. Only its entity is compared here. -/
def registerConfig (registry : Registry) (config : EntityConfig) :
    Except ConfigurationError Registry :=
  if registry.contains config.entity then
    .error (.duplicateEntity config.entity)
  else
    .ok ⟨registry.configs.insert config.entity config⟩

def register (registry : Registry) (entity : String) (declaration : Declaration) :
    Except ConfigurationError Registry := do
  registry.registerConfig (← EntityConfig.ofDeclaration entity declaration)

/-- Registers in order up to the first failure. What has been registered before it is kept. -/
def registerAll (registry : Registry) :
    List (String × Declaration) → Registry × Except ConfigurationError Nat
  | [] => (registry, .ok 0)
  | (entity, declaration) :: rest =>
    match registry.register entity declaration with
    | .error error => (registry, .error error)
    | .ok registry =>
      let (registry, result) := registry.registerAll rest
      (registry, result.map (· + 1))

/-- Removes an entity and returns its configuration. -/
def unregister (registry : Registry) (entity : String) :
    Except ConfigurationError (EntityConfig × Registry) := do
  let config ← registry.lookup entity
  return (config, ⟨registry.configs.erase entity⟩)

/-- Registered names, sorted by code point. -/
def entities (registry : Registry) : List String :=
  registry.configs.keys.mergeSort (· ≤ ·)

def describe (registry : Registry) : List String :=
  registry.entities.filterMap fun entity => (registry.get? entity).map (·.describe)

def display (registry : Registry) : String :=
  "EntityRegistry \x7b entity_types: [" ++ ", ".intercalate (registry.entities.map quoted) ++ "] \x7d"

end Registry

end EntitySearch
