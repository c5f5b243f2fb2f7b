import FilterQuery.Configuration
import FilterQuery.Expression.Reader
import FilterQuery.FieldSummary

namespace FilterQuery

/-! The commands of the program and their answers. -/

inductive Command where
  | entities
  | metadata (entity : String) (group : Option String)
  | translate (entity : String) (group : Option String) (expression : String)
deriving DecidableEq, Repr

/-- Commands on single entities need an entity that is registered. -/
def Registry.requireEntity (registry : Registry) (entity : String) : Except Failure Unit :=
  if registry.hasEntity entity then .ok () else .error (.unknownEntity entity)

/-- The answer to a command.  An expression is read before the fields that it may
use are collected. -/
def Command.execute (configuration : Configuration) (registry : Registry) :
    Command → Except Failure Json
  | .entities => .ok (Json.ofStrings registry.entityNames)
  | .metadata entity group => do
      registry.requireEntity entity
      .ok (FieldSummary.listToJson (registry.lookup entity group))
  | .translate entity group text => do
      registry.requireEntity entity
      match Expression.parse? text with
      | none => .error .malformedExpression
      | some expression =>
          let answer := do
            let fields ← registry.lookupMap entity group
            configuration.target.translate ⟨fields, configuration.unknown⟩ expression
          answer.mapError .refused

end FilterQuery
