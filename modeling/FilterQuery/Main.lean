import FilterQuery.Program

/-! The program as it is run: variables and files are read in front, and what is
printed is computed from them. -/

open FilterQuery

/-- What is found at a path. -/
def readContent (path : String) : IO FileContent := do
  try
    return .ofBytes (← IO.FS.readBinFile path)
  catch
    | .noFileOrDirectory .. => return .missing
    | .inappropriateType .. => return .directory
    | .permissionDenied .. => return .unreadable "Permission denied (os error 13)"
    | error => return .unreadable (toString error)

/-- The variables with the given names that are set. -/
def readVariables (names : List String) : IO (Dictionary String) := do
  let entries ← names.filterMapM fun name => do
    return (← IO.getEnv name).map (name, ·)
  return Dictionary.ofList entries

/-- Variables that the program looks at, or to which a file of variables refers. -/
def variableNames (content : FileContent) : List String :=
  let named := CommandLine.Parameter.shared.filterMap CommandLine.Parameter.variableName?
  match content with
  | .text text => named ++ EnvironmentFile.references text.toList
  | .missing | .unreadable _ => named

def main (arguments : List String) : IO UInt32 := do
  let variablesContent ← readContent Program.variablesPath
  let environment ← readVariables (variableNames variablesContent)
  let completed := Program.completeEnvironment environment fun _ => variablesContent
  let path := Program.configurationPath arguments completed
  let configurationContent ← readContent path
  let outcome := Program.run arguments environment fun asked =>
    if asked = path then configurationContent
    else if asked = Program.variablesPath then variablesContent
    else .missing
  IO.print outcome.output
  IO.eprint outcome.errors
  return outcome.status.toUInt32
