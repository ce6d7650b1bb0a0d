import EntitySearch.Entity.Application
import EntitySearch.Entity.Message
import EntitySearch.Registry

/-! The registry with the entities that come with the library. -/
namespace EntitySearch

inductive BuiltinEntity where
  | messages
  | applications
deriving DecidableEq

namespace BuiltinEntity

def name : BuiltinEntity → String
  | .messages => Message.entity
  | .applications => Application.entity

def declaration : BuiltinEntity → Declaration
  | .messages => Message.declaration
  | .applications => Application.declaration

end BuiltinEntity

namespace Registry

def registerBuiltin (registry : Registry) (builtin : BuiltinEntity) :
    Except ConfigurationError Registry :=
  registry.register builtin.name builtin.declaration

def builtin : Except ConfigurationError Registry := do
  (← empty.registerBuiltin .messages).registerBuiltin .applications

end Registry

end EntitySearch
