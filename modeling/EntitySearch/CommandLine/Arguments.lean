/-! Reading the arguments of the command line. Arguments are read from the left, first those before
the command and then those of the command. An option takes its value from behind an equals sign or
from the next argument, and it is settled only when something else follows. So an argument that is
not known is complained about even if the option before it has a bad value. -/
namespace EntitySearch.CommandLine

inductive CommandName where
  | compile
  | normalize
  | entities
deriving DecidableEq

def CommandName.ofString? (name : String) : Option CommandName :=
  if name = "compile" then some .compile
  else if name = "normalize" then some .normalize
  else if name = "entities" then some .entities
  else none

/-- Options with a value. The first three are known everywhere and may come from the environment. -/
inductive OptionName where
  | logLevel
  | mappings
  | builtinEntities
  | filters
  | options
deriving DecidableEq

inductive FlagName where
  | count
  | pretty
  | help
  | version
deriving DecidableEq

/-- Why the arguments lead to no command. Asking for help or for the version counts as one. -/
inductive UsageError where
  | help
  | version
  | noArguments
  | missingCommand
  | unknownCommand
  | missingArgument
  | unknownArgument
  | invalidValue
  | surplusValue
  | repeated
deriving DecidableEq

/-- Where arguments are read: before the command, or as its own. -/
abbrev Level := Option CommandName

def optionOf? (level : Level) (name : String) : Option OptionName :=
  if name = "log-level" then some .logLevel
  else if name = "mappings" then some .mappings
  else if name = "builtin-entities" then some .builtinEntities
  else if level = some .compile ∧ name = "filters" then some .filters
  else if level = some .compile ∧ name = "options" then some .options
  else none

def flagOf? (level : Level) (name : String) : Option FlagName :=
  if name = "help" then some .help
  else if level = none ∧ name = "version" then some .version
  else if level = some .compile ∧ name = "count" then some .count
  else if level = some .compile ∧ name = "pretty" then some .pretty
  else none

/-- Number of plain arguments of a level. Where it is positive, none of them may be missing. -/
def operandCount : Level → Nat
  | some .compile | some .normalize => 1
  | some .entities | none => 0

def isValid (option : OptionName) (value : String) : Bool :=
  match option with
  | .builtinEntities => value == "true" || value == "false"
  | .mappings => value != ""
  | .logLevel | .filters | .options => true

/-- Arguments of one level read so far. The last option may still wait for its value or for what
comes after it. -/
structure Reading where
  options : List (OptionName × String)
  flags : List FlagName
  operands : List String
  pending : Option (OptionName × Option String)

namespace Reading

def empty : Reading :=
  ⟨[], [], [], none⟩

def awaitsValue (reading : Reading) : Bool :=
  match reading.pending with
  | some (_, none) => true
  | _ => false

def addOption (reading : Reading) (option : OptionName) (value : String) :
    Except UsageError Reading :=
  if reading.options.any (·.1 == option) then .error .repeated
  else if !isValid option value then .error .invalidValue
  else .ok { reading with options := (option, value) :: reading.options }

/-- Resolves the pending option. Without a value it is refused like one with a bad value. -/
def settle (reading : Reading) : Except UsageError Reading :=
  match reading.pending with
  | none => .ok reading
  | some (_, none) => .error .invalidValue
  | some (option, some value) => { reading with pending := none }.addOption option value

def addFlag (reading : Reading) : FlagName → Except UsageError Reading
  | .help => .error .help
  | .version => .error .version
  | flag =>
    if reading.flags.contains flag then .error .repeated
    else .ok { reading with flags := flag :: reading.flags }

def addLong (reading : Reading) (level : Level) (name : String) (attached : Option String) :
    Except UsageError Reading :=
  match optionOf? level name, flagOf? level name, attached with
  | some option, _, some value => do (← reading.settle).addOption option value
  | some option, _, none => do return { ← reading.settle with pending := some (option, none) }
  | none, some _, some _ => .error .surplusValue
  | none, some flag, none => do (← reading.settle).addFlag flag
  | none, none, _ => .error .unknownArgument

/-- Letters behind a single dash. Only the first of them is ever read. -/
def addShort (reading : Reading) (level : Level) (letter : Char) : Except UsageError Reading :=
  if letter = 'h' then do (← reading.settle).addFlag .help
  else if letter = 'V' ∧ level = none then do (← reading.settle).addFlag .version
  else .error .unknownArgument

def addOperand (reading : Reading) (level : Level) (closed : Bool) (argument : String) :
    Except UsageError Reading :=
  if reading.operands.length < operandCount level then do
    let reading ← reading.settle
    return { reading with operands := reading.operands ++ [argument] }
  else
    match level with
    | some _ => .error .unknownArgument
    | none =>
      if closed && ((CommandName.ofString? argument).isSome || argument == "help") then
        .error .unknownArgument
      else
        .error .unknownCommand

end Reading

/-- Splits text behind two dashes at its first equals sign. -/
def splitAttached (cs : List Char) : String × Option String :=
  match cs.dropWhile (· != '=') with
  | [] => (String.ofList cs, none)
  | _ :: value => (String.ofList (cs.takeWhile (· != '=')), some (String.ofList value))

/-- The help command shows help, unless it is asked about something that is no command. -/
def helpAbout : List String → UsageError
  | [] => .help
  | [topic] =>
    if (CommandName.ofString? topic).isSome || topic == "help" then .help else .unknownCommand
  | _ :: _ :: _ => .unknownCommand

/-- Reads one level of arguments up to a command, where one is expected, and returns the command
with the arguments behind it. Behind two dashes alone nothing is an option or a command. -/
def readLevel (level : Level) (closed : Bool) (reading : Reading) :
    List String → Except UsageError (Reading × Option (CommandName × List String))
  | [] => .ok (reading, none)
  | argument :: rest => do
    if closed then
      readLevel level true (← reading.addOperand level true argument) rest
    else if level = none && !reading.awaitsValue && argument == "help" then
      .error (helpAbout rest)
    else
      let command := if level = none && !reading.awaitsValue then
        CommandName.ofString? argument else none
      match command, argument.toList with
      | some name, _ => return (reading, some (name, rest))
      | none, ['-', '-'] => readLevel level true reading rest
      | none, '-' :: '-' :: cs =>
        let (name, attached) := splitAttached cs
        readLevel level false (← reading.addLong level name attached) rest
      | none, '-' :: letter :: _ => readLevel level false (← reading.addShort level letter) rest
      | none, _ =>
        match reading.pending with
        | some (option, none) =>
          readLevel level false { reading with pending := some (option, some argument) } rest
        | _ => readLevel level false (← reading.addOperand level false argument) rest

end EntitySearch.CommandLine
