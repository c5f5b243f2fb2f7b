import FilterQuery.CommandLine.Parameter

namespace FilterQuery.CommandLine

/-! The two levels of a command line: the program itself, and the subcommand with
everything behind its name. -/

inductive Subcommand where
  | entities
  | metadata
  | translate
deriving DecidableEq, Repr

namespace Subcommand

def ofName? (name : String) : Option Subcommand :=
  if name = "entities" then some .entities
  else if name = "metadata" then some .metadata
  else if name = "translate" then some .translate
  else none

/-- The command with the given values, if none of those it needs is missing. -/
def command? (subcommand : Subcommand) (values : Values) : Option Command :=
  match subcommand with
  | .entities => some .entities
  | .metadata => values.entity.map fun entity => .metadata entity values.group
  | .translate =>
      values.entity.bind fun entity =>
        values.expression.map fun expression => .translate entity values.group expression

end Subcommand

inductive Level where
  | program
  | subcommand (subcommand : Subcommand)
deriving DecidableEq, Repr

/-- What an option stands for: a parameter that takes a value, or a request that
takes none. -/
inductive Switch where
  | parameter (parameter : Parameter)
  | request (usage : Usage)
deriving DecidableEq, Repr

namespace Level

def parameters : Level → List Parameter
  | .program | .subcommand .entities => Parameter.shared
  | .subcommand .metadata => [.entity, .group] ++ Parameter.shared
  | .subcommand .translate => [.entity, .group, .expression] ++ Parameter.shared

/-- Only the program itself has a version. -/
def longSwitch? (level : Level) (name : String) : Option Switch :=
  if name = "help" then some (.request .help)
  else if name = "version" && level = .program then some (.request .version)
  else (level.parameters.find? fun parameter => parameter.longName = name).map .parameter

def shortSwitch? (level : Level) (letter : Char) : Option Switch :=
  if letter = 'h' then some (.request .help)
  else if letter = 'V' && level = .program then some (.request .version)
  else (level.parameters.find? fun parameter => parameter.letter? = some letter).map .parameter

/-- The error for a word that is neither an option nor a value.  The program takes
it for the name of a subcommand. -/
def strayWord (level : Level) (word : String) : Usage :=
  match level with
  | .program => .unknownSubcommand word
  | .subcommand _ => .unknownArgument word

def isSubcommandWord (word : String) : Bool :=
  word = "help" || (Subcommand.ofName? word).isSome

/-- Behind a separator no word names a subcommand any more. -/
def strayBehindSeparator (level : Level) (word : String) : Usage :=
  if isSubcommandWord word then .unknownArgument word else level.strayWord word

end Level

end FilterQuery.CommandLine
