import EntitySearch.CommandLine.Run

/-! The program. It looks at the environment and at the file of declarations, and leaves the rest to
`CommandLine.execute`. Output goes to the standard output, complaints go to the standard error. -/
namespace EntitySearch.CommandLine

/-- What a path leads to. What cannot be read although it is there counts as a directory. -/
def readState (path : String) : IO Declaration.FileState := do
  try
    return .contents (← IO.FS.readBinFile path)
  catch error =>
    match error with
    | .noFileOrDirectory .. => return .missing
    | _ => return .directory

def readEnvironment : IO (List (String × String)) := do
  let names := environmentOptions.filterMap OptionName.variableName?
  names.filterMapM fun name => do
    return (← IO.getEnv name).map fun value => (name, value)

/-- The world as the arguments make it necessary to look at it: of all files only the one that the
settings name is read. -/
def readWorld (arguments : List String) : IO World := do
  let environment ← readEnvironment
  let world : World := ⟨fun name => environment.lookup name, fun _ => .missing⟩
  match (Settings.ofArguments world arguments).toOption.bind (·.mappings) with
  | none => return world
  | some path =>
    let state ← readState path
    return { world with file := fun name => if name == path then state else .missing }

def usageText : String :=
  "Usage: lookout [OPTIONS] <COMMAND>\n\n" ++
  "Compile entity search requests into Elasticsearch queries\n\n" ++
  "Commands: compile, normalize, entities, help"

def UsageError.message : UsageError → String
  | .help | .noArguments => usageText
  | .version => "lookout"
  | .missingCommand => "error: a command is required"
  | .unknownCommand => "error: unrecognized command"
  | .missingArgument => "error: a required argument is missing"
  | .unknownArgument => "error: unexpected argument"
  | .invalidValue => "error: invalid value for an option"
  | .surplusValue => "error: unexpected value for a flag"
  | .repeated => "error: an option cannot be used more than once"

end EntitySearch.CommandLine

open EntitySearch.CommandLine in
def main (arguments : List String) : IO UInt32 := do
  match execute (← readWorld arguments) arguments with
  | .output text =>
    IO.println text
    return 0
  | .usage .help =>
    IO.println UsageError.help.message
    return 0
  | .usage .version =>
    IO.println UsageError.version.message
    return 0
  | .usage error =>
    IO.eprintln error.message
    return 2
  | .invalid faults =>
    for fault in faults do
      IO.eprintln ("Configuration error: " ++ fault)
    return 1
  | .failure error =>
    IO.eprintln ("Error: " ++ error.message)
    return 1
