import FilterQuery.Configuration.File
import FilterQuery.FilterError
import FilterQuery.Registry

namespace FilterQuery

/-! Configurations: what is declared in a file, and how expressions are
translated. -/

/-- What a caller chooses, each with precedence over the file. -/
structure Options where
  configuration : Option String := none
  target : Option TargetName := none
  unknown : Option UnknownMembers := none
deriving DecidableEq, Repr

/-- Choices of the first caller have precedence. -/
def Options.or (first second : Options) : Options where
  configuration := first.configuration.or second.configuration
  target := first.target.or second.target
  unknown := first.unknown.or second.unknown

structure Configuration where
  entities : Dictionary (List Declaration) := .empty
  groups : Dictionary (List String) := .empty
  target : TargetName := .sql .postgres
  unknown : UnknownMembers := .matchNothing

namespace Configuration

/-- The file that is read, if it is there, when the caller names none. -/
def defaultPath : String := "siftql.json"

def ofFile (file : ConfigurationFile) (options : Options) : Configuration where
  entities := file.entities
  groups := file.groups
  target := (options.target.or file.target).getD (.sql .postgres)
  unknown := (options.unknown.or file.translation.join).getD .matchNothing

/-- The configuration in a file that must be there. -/
def read (path : String) (content : FileContent) (options : Options) :
    Except Failure Configuration :=
  match content with
  | .missing => .error (.configurationNotFound path)
  | .unreadable reason => .error (.configurationUnreadable path reason)
  | .text text =>
      match ConfigurationFile.parse? text with
      | none => .error (.configurationMalformed path)
      | some file => .ok (ofFile file options)

/-- Without any file, nothing is declared. -/
def load (options : Options) (contentAt : String → FileContent) :
    Except Failure Configuration :=
  match options.configuration with
  | some path => read path (contentAt path) options
  | none =>
      match contentAt defaultPath with
      | .missing => .ok (ofFile {} options)
      | content => read defaultPath content options

def declareGroups (registry : Registry) (groups : List (String × List String)) : Registry :=
  groups.foldl (fun registry (group, parents) => (registry.declareGroup group parents).1)
    registry

/-- Registers entities up to the first that is refused. -/
def registerEntities (registry : Registry) :
    List (String × List Declaration) → Registry × Except Failure Unit
  | [] => (registry, .ok ())
  | (entity, declarations) :: entities =>
      match registry.registerDeclarations entity declarations with
      | .error cause => (registry, .error (.invalidDeclarations entity cause))
      | .ok (registry, _) => registerEntities registry entities

/-- Declares all groups and then registers the entities. -/
def register (configuration : Configuration) (registry : Registry) :
    Registry × Except Failure Unit :=
  registerEntities (declareGroups registry configuration.groups.entries)
    configuration.entities.entries

end Configuration

end FilterQuery
