import FilterQuery.Field
import FilterQuery.Groups
import FilterQuery.Text.Basic

namespace FilterQuery

/-! What is registered: the fields of entities, and the groups that scope them.
The first registration of an entity is kept, as is the first declaration of a
group. -/

structure Registry where
  entities : Dictionary (List Field) := Dictionary.empty
  groups : Groups := {}
deriving DecidableEq

namespace Registry

def hasEntity (registry : Registry) (entity : String) : Bool :=
  registry.entities.contains entity

/-- The names of the entities in alphabetical order. -/
def entityNames (registry : Registry) : List String :=
  Text.alphabetical registry.entities.keys

/-- The flag tells whether the fields were stored. -/
def register (registry : Registry) (entity : String) (fields : List Field) :
    Registry × Bool :=
  let (entities, stored) := registry.entities.insertNew entity fields
  ({ registry with entities }, stored)

/-- The declarations of an entity that is known already are not even checked;
one that is refused keeps all others from being stored. -/
def registerDeclarations (registry : Registry) (entity : String)
    (declarations : List Declaration) : Except FilterError (Registry × Bool) :=
  if registry.hasEntity entity then
    .ok (registry, false)
  else
    (Field.buildAll declarations).map (registry.register entity)

/-- The flag tells whether the parents were stored. -/
def declareGroup (registry : Registry) (group : String) (parents : List String) :
    Registry × Bool :=
  let (groups, stored) := registry.groups.declare group parents
  ({ registry with groups }, stored)

def isAssignable (registry : Registry) (requested declared : String) : Bool :=
  registry.groups.isAssignable requested declared

/-- A field without groups is visible to everyone, any other only to requests
for a group that may see one of its groups. -/
def isVisible (registry : Registry) (group : Option String) (field : Field) : Bool :=
  field.groups = [] ||
    group.any fun requested => field.groups.any (registry.isAssignable requested)

/-- The visible fields of an entity, in the order of their declarations.  An
unknown entity has none. -/
def lookup (registry : Registry) (entity : String) (group : Option String) : List Field :=
  ((registry.entities.find? entity).getD []).filter (registry.isVisible group)

def lookupMap (registry : Registry) (entity : String) (group : Option String) :
    Except FilterError FieldMap :=
  FieldMap.ofFields entity (registry.lookup entity group)

end Registry

end FilterQuery
