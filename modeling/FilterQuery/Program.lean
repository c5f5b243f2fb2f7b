import FilterQuery.CommandLine.Reader
import FilterQuery.EnvironmentFile
import FilterQuery.Json.Writer

namespace FilterQuery.Program

/-! The program: from its arguments, variables and files to what it prints. -/

structure Outcome where
  status : Nat
  output : String := ""
  errors : String := ""
deriving DecidableEq, Repr

def name : String := "siftql"

def version : String := "0.3.0"

def helpText : String :=
  "Declarative filter fields and query translation\n\n" ++
    "Usage: " ++ name ++ " [OPTIONS] <COMMAND>\n\n" ++
    "Commands:\n" ++
    "  entities   List registered entities\n" ++
    "  metadata   Print the filter metadata of an entity as JSON\n" ++
    "  translate  Translate a JSON expression tree into a filter for the target\n\n" ++
    "Options:\n" ++
    "  -c, --config <PATH>          Path to config file\n" ++
    "  -t, --target <TARGET>        postgres, sqlite or document\n" ++
    "      --unknown-enum <POLICY>  null or reject\n" ++
    "  -e, --entity <ENTITY>        Entity of metadata and translate\n" ++
    "  -g, --group <GROUP>          Group to view the entity through\n" ++
    "      --expr <JSON>            Expression tree to translate\n"

/-- The file in the working directory that may set variables. -/
def variablesPath : String := ".env"

/-- The variables that are set, those of the file included. -/
def completeEnvironment (environment : Dictionary String) (contentAt : String → FileContent) :
    Dictionary String :=
  match contentAt variablesPath with
  | .text text => EnvironmentFile.load environment text
  | .missing | .unreadable _ => environment

/-- The answer to a command under the configuration that the options name. -/
def answer (options : Options) (command : Command) (contentAt : String → FileContent) :
    Except Failure Json := do
  let configuration ← Configuration.load options contentAt
  let (registry, registered) := configuration.register {}
  registered
  command.execute configuration registry

def Outcome.ofUsage : CommandLine.Usage → Outcome
  | .help => { status := 0, output := helpText }
  | .version => { status := 0, output := name ++ " " ++ version ++ "\n" }
  | usage =>
      let message := usage.message?.getD "invalid arguments"
      { status := 2, errors := "error: " ++ message ++ "\n\nFor more information, try '--help'.\n" }

def Outcome.ofAnswer : Except Failure Json → Outcome
  | .ok value => { status := 0, output := value.indented ++ "\n" }
  | .error failure => { status := 1, errors := "\nError: " ++ failure.report ++ "\n\n" }

/-- The file that the configuration is read from. -/
def configurationPath (arguments : List String) (environment : Dictionary String) : String :=
  match CommandLine.parse environment.find? arguments with
  | .ok (options, _) => options.configuration.getD Configuration.defaultPath
  | .error _ => Configuration.defaultPath

def run (arguments : List String) (environment : Dictionary String)
    (contentAt : String → FileContent) : Outcome :=
  let environment := completeEnvironment environment contentAt
  match CommandLine.parse environment.find? arguments with
  | .error usage => .ofUsage usage
  | .ok (options, command) => .ofAnswer (answer options command contentAt)

end FilterQuery.Program
