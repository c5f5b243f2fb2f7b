import FilterQuery.Field
import FilterQuery.Json.Basic

namespace FilterQuery

/-! What clients are told about the fields they may use.  Storage keys and groups
stay internal. -/

/-- Enumerations come with their labels. -/
structure FieldSummary where
  field : String
  kind : ValueKind
  operators : List Operator
  description : String
  labels : Option (Dictionary String)
deriving DecidableEq

namespace FieldSummary

def ofField (field : Field) : FieldSummary where
  field := field.name
  kind := field.kind
  operators := field.operators
  description := field.description
  labels := if field.isEnumeration then field.labels else none

def toJson (summary : FieldSummary) : Json :=
  let labels := summary.labels.elim [] fun labels =>
    [("dictionary", Json.object (labels.entries.map fun (label, member) =>
      (label, .string member)))]
  .object ([
    ("field", .string summary.field),
    ("value_type", .string summary.kind.name),
    ("operators", Json.ofStrings (summary.operators.map Operator.symbol)),
    ("description", .string summary.description)] ++ labels)

/-- The summaries of fields, in their order. -/
def listToJson (fields : List Field) : Json :=
  .array (fields.map fun field => (ofField field).toJson)

end FieldSummary

end FilterQuery
