import FilterQuery.Command

namespace FilterQuery.CommandLine

/-! Parameters of the command line and the values given for them. -/

/-- Why a command line is not run, and the two requests that are answered without
running it. -/
inductive Usage where
  | help
  | version
  | nothingGiven
  | missingSubcommand
  | unknownSubcommand (word : String)
  | unknownArgument (word : String)
  | missingValue
  | emptyPath
  | rejectedTarget (text : String)
  | rejectedPolicy (text : String)
  | repeatedParameter
  | unexpectedValue
  | missingParameter
deriving DecidableEq, Repr

/-- The text for a value that a parameter does not accept. -/
def Usage.message? : Usage → Option String
  | .rejectedTarget text =>
      some ("Invalid target '" ++ text ++ "'. Valid options: postgres, sqlite, document")
  | .rejectedPolicy text =>
      some ("Invalid unknown-enum policy '" ++ text ++ "'. Valid options: null, reject")
  | _ => none

inductive Parameter where
  | configuration
  | target
  | unknownMembers
  | entity
  | group
  | expression
deriving DecidableEq, Repr

namespace Parameter

/-- Parameters that are accepted before and behind the name of a subcommand. -/
def shared : List Parameter :=
  [.configuration, .target, .unknownMembers]

def longName : Parameter → String
  | .configuration => "config"
  | .target => "target"
  | .unknownMembers => "unknown-enum"
  | .entity => "entity"
  | .group => "group"
  | .expression => "expr"

def letter? : Parameter → Option Char
  | .configuration => some 'c'
  | .target => some 't'
  | .entity => some 'e'
  | .group => some 'g'
  | .unknownMembers | .expression => none

/-- Parameters that may also be set in the environment. -/
def variableName? : Parameter → Option String
  | .configuration => some "SIFTQL_CONFIG"
  | .target => some "SIFTQL_TARGET"
  | .unknownMembers => some "SIFTQL_UNKNOWN_ENUM"
  | .entity | .group | .expression => none

end Parameter

/-- The target with a name or one of its other names, whatever the case of its
letters. -/
def targetOfText? (text : String) : Option TargetName :=
  let lowered := Text.toLowerCase text
  if lowered = "postgres" || lowered = "postgresql" then some (.sql .postgres)
  else if lowered = "sqlite" then some (.sql .sqlite)
  else if lowered = "document" || lowered = "mongo" || lowered = "mongodb" then some .document
  else none

/-- The policy with a name, whatever the case of its letters. -/
def unknownMembersOfText? (text : String) : Option UnknownMembers :=
  UnknownMembers.ofName? (Text.toLowerCase text)

/-- The values given for parameters. -/
structure Values where
  options : Options := {}
  entity : Option String := none
  group : Option String := none
  expression : Option String := none
deriving DecidableEq, Repr

namespace Values

def has (values : Values) : Parameter → Bool
  | .configuration => values.options.configuration.isSome
  | .target => values.options.target.isSome
  | .unknownMembers => values.options.unknown.isSome
  | .entity => values.entity.isSome
  | .group => values.group.isSome
  | .expression => values.expression.isSome

/-- Adds the value with the given text. -/
def set (values : Values) (parameter : Parameter) (text : String) : Except Usage Values :=
  match parameter with
  | .configuration =>
      if text = "" then
        .error .emptyPath
      else
        .ok { values with options := { values.options with configuration := some text } }
  | .target =>
      match targetOfText? text with
      | none => .error (.rejectedTarget text)
      | some target =>
          .ok { values with options := { values.options with target := some target } }
  | .unknownMembers =>
      match unknownMembersOfText? text with
      | none => .error (.rejectedPolicy text)
      | some unknown =>
          .ok { values with options := { values.options with unknown := some unknown } }
  | .entity => .ok { values with entity := some text }
  | .group => .ok { values with group := some text }
  | .expression => .ok { values with expression := some text }

/-- No parameter may be given twice. -/
def add (values : Values) (parameter : Parameter) (text : String) : Except Usage Values :=
  if values.has parameter then .error .repeatedParameter else values.set parameter text

/-- Takes parameters that are not given from the environment. -/
def complete (values : Values) (environment : String → Option String) : Except Usage Values :=
  Parameter.shared.foldlM
    (fun values parameter =>
      match parameter.variableName?.bind environment with
      | none => .ok values
      | some text => if values.has parameter then .ok values else values.set parameter text)
    values

end Values

end FilterQuery.CommandLine
