import EntitySearch.CommandLine.Settings
import EntitySearch.Entity.Builtin
import EntitySearch.Json.Reader
import EntitySearch.Query.Assembly

/-! Running a command to its output. -/
namespace EntitySearch.CommandLine

inductive RunError where
  | configuration (cause : ConfigurationError)
  | registration (path : String) (cause : ConfigurationError)
  | filters (cause : Json.Malformed)
  | options (cause : Json.Malformed)
  | search (entity : String) (cause : SearchError)

def RunError.message : RunError → String
  | .configuration cause => cause.message
  | .registration path cause => "Failed to register declarations from " ++ path ++ ": " ++ cause.message
  | .filters cause => "Invalid --filters JSON: " ++ cause.message
  | .options cause => "Invalid --options JSON: " ++ cause.message
  | .search entity cause => "Failed to compile search for '" ++ entity ++ "': " ++ cause.message

/-- Registers the built-in entities, where these are asked for, before the declarations of the
file. -/
def buildRegistry (world : World) (settings : Settings) : Except RunError Registry := do
  let registry ← if settings.builtinEntities then
      Registry.builtin.mapError RunError.configuration
    else
      .ok .empty
  match settings.mappings with
  | none => return registry
  | some path =>
    let declarations ← (Declaration.loadFile path (world.file path)).mapError .configuration
    match registry.registerAll declarations with
    | (registry, .ok _) => return registry
    | (_, .error cause) => .error (.registration path cause)

/-- Compiles a request given as JSON text, for searching or for counting. -/
def compile (registry : Registry) (entity filters options : String) (count : Bool) :
    Except RunError Json := do
  let filters ← (Json.parse filters).mapError .filters
  let options ← (Json.parse options).mapError .options
  let search ← (registry.assembleJson entity filters options).mapError (.search entity)
  return search.toJsonWith (if count then search.countBody else search.body)

def run (world : World) (settings : Settings) : Except RunError String := do
  match settings.command with
  | .compile entity filters options count pretty =>
    let registry ← buildRegistry world settings
    let output ← compile registry entity filters options count
    return if pretty then output.indented else output.compact
  | .normalize term => return Term.normalize term
  | .entities =>
    let registry ← buildRegistry world settings
    return "\n".intercalate registry.describe

inductive Outcome where
  | output (text : String)
  | usage (error : UsageError)
  | invalid (faults : List String)
  | failure (error : RunError)

/-- A whole run: arguments are read and settings are checked before the command has any effect. -/
def execute (world : World) (arguments : List String) : Outcome :=
  match Settings.ofArguments world arguments with
  | .error error => .usage error
  | .ok settings =>
    match settings.faults world with
    | [] =>
      match run world settings with
      | .ok text => .output text
      | .error error => .failure error
    | faults => .invalid faults

end EntitySearch.CommandLine
