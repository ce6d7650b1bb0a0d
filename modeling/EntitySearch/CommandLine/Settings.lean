import EntitySearch.CommandLine.Arguments
import EntitySearch.Declaration.Loading
import EntitySearch.Unicode.Lowercase

/-! Settings of a run: what the arguments and the environment ask for, and whether that makes
sense. -/
namespace EntitySearch.CommandLine

inductive Command where
  | compile (entity filters options : String) (count pretty : Bool)
  | normalize (term : String)
  | entities

structure Settings where
  logLevel : String
  mappings : Option String
  builtinEntities : Bool
  command : Command

/-- The part of the world that a run depends on: variables of the environment and what paths lead
to. -/
structure World where
  environment : String → Option String
  file : String → Declaration.FileState

def OptionName.variableName? : OptionName → Option String
  | .logLevel => some "LOOKOUT_LOG_LEVEL"
  | .mappings => some "LOOKOUT_MAPPINGS"
  | .builtinEntities => some "LOOKOUT_BUILTIN_ENTITIES"
  | .filters | .options => none

def World.option? (world : World) (option : OptionName) : Option String :=
  option.variableName?.bind world.environment

def environmentOptions : List OptionName :=
  [.logLevel, .mappings, .builtinEntities]

/-- A variable sets an option badly and no argument of this level sets it. -/
def World.misleads (world : World) (reading : Reading) : Bool :=
  environmentOptions.any fun option =>
    !reading.options.any (·.1 == option) &&
      match world.option? option with
      | some value => !isValid option value
      | none => false

/-- Ends a level: the last option is settled, the environment is consulted, and plain arguments must
not be missing. -/
def finishLevel (world : World) (level : Level) (reading : Reading) :
    Except UsageError Reading := do
  let reading ← reading.settle
  if world.misleads reading then .error .invalidValue
  else if reading.operands.length < operandCount level then .error .missingArgument
  else return reading

/-- Arguments of the command take precedence over those before it, and these over the
environment. -/
def chooseOption (world : World) (outer inner : Reading) (option : OptionName) : Option String :=
  ((inner.options.lookup option).or (outer.options.lookup option)).or (world.option? option)

def commandOf (name : CommandName) (reading : Reading) : Command :=
  let operand := reading.operands.headD ""
  let value (option : OptionName) := (reading.options.lookup option).getD "\x7b\x7d"
  match name with
  | .compile => .compile operand (value .filters) (value .options)
      (reading.flags.contains .count) (reading.flags.contains .pretty)
  | .normalize => .normalize operand
  | .entities => .entities

def withoutCommand (world : World) (reading : Reading) : UsageError :=
  if reading.options.isEmpty && environmentOptions.all (fun o => (world.option? o).isNone) then
    .noArguments
  else
    .missingCommand

/-- The settings that arguments and environment ask for. The arguments of the command are settled
before those in front of it. -/
def Settings.ofArguments (world : World) (arguments : List String) :
    Except UsageError Settings := do
  let (outer, command) ← readLevel none false .empty arguments
  match command with
  | none => .error (withoutCommand world (← finishLevel world none outer))
  | some (name, rest) =>
    let (inner, _) ← readLevel (some name) false .empty rest
    let inner ← finishLevel world (some name) inner
    let outer ← finishLevel world none outer
    return {
      logLevel := (chooseOption world outer inner .logLevel).getD "warn"
      mappings := chooseOption world outer inner .mappings
      builtinEntities := (chooseOption world outer inner .builtinEntities).getD "true" == "true"
      command := commandOf name inner }

def logLevels : List String :=
  ["error", "warn", "info", "debug", "trace"]

/-- All faults of the settings as messages, not only the first. -/
def Settings.faults (settings : Settings) (world : World) : List String :=
  let level := String.ofList (Unicode.lowercase settings.logLevel.toList)
  let levelFault := if logLevels.contains level then [] else
    ["Invalid log level '" ++ settings.logLevel ++ "', expected one of: " ++
      ", ".intercalate logLevels]
  let fileFault := match settings.mappings with
    | none => []
    | some path =>
      match world.file path with
      | .contents _ => []
      | .missing | .directory => ["Mappings file not found: " ++ path]
  let emptyFault := if settings.builtinEntities || settings.mappings.isSome then [] else
    ["No entities to search: built-in entities are disabled and no mappings file is set"]
  levelFault ++ fileFault ++ emptyFault

end EntitySearch.CommandLine
