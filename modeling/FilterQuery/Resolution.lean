import FilterQuery.Binary64.Literal
import FilterQuery.Field
import FilterQuery.Predicate

namespace FilterQuery

/-! Resolution: what a single comparison asks for, given the fields of a request.
Errors are looked for in a fixed order, and the first one found is reported. -/

namespace Field

/-- The value of a literal, for fields other than enumerations. -/
def readLiteral? (kind : ValueKind) (literal : String) : Option Value :=
  match kind with
  | .integer => (Text.integer64? literal.toList).map .integer
  | .float => (Binary64.finite? literal).map .float
  | .decimal => (Decimal.parse literal).toOption.map .decimal
  | .boolean =>
      let lowered := literal.toList.map Char.toLower
      if lowered = "true".toList then some (.boolean true)
      else if lowered = "false".toList then some (.boolean false)
      else none
  | .dateTime => (Calendar.Instant.parse? literal).map .dateTime
  | .string | .enumeration => some (.string literal)

/-- The value of an argument; `none` stands for a literal that names no member
of an enumeration and is not rejected. -/
def castArgument (field : Field) (unknown : UnknownMembers) (literal : String) :
    Except FilterError (Option Value) :=
  let failure := FilterError.invalidArgument field.name literal field.kind
  if field.kind = .enumeration then
    match field.resolveMember? literal, unknown with
    | some member, _ => .ok (some (.string member))
    | none, .matchNothing => .ok none
    | none, .reject => .error failure
  else
    match readLiteral? field.kind literal with
    | some value => .ok (some value)
    | none => .error failure

def castArguments (field : Field) (unknown : UnknownMembers) (literals : List String) :
    Except FilterError (List (Option Value)) :=
  literals.mapM (field.castArgument unknown)

/-- The test that an operator and its arguments make, `none` if it holds for no
value.  A list to choose from loses the literals that name no member; every
other test with such a literal holds for no value. -/
def test? (field : Field) (selector : String) (operator : Operator)
    (unknown : UnknownMembers) (arguments : List String) : Except FilterError (Option Test) :=
  let miscounted := FilterError.argumentCount selector operator arguments.length
  match operator.form with
  | .nullTest test => .ok (some test)
  | .single test =>
      match arguments with
      | [argument] => (field.castArgument unknown argument).map (Option.map test)
      | _ => .error miscounted
  | .list test =>
      if arguments = [] then
        .error miscounted
      else
        (field.castArguments unknown arguments).map fun values =>
          if operator = .oneOf || none ∉ values then some (test values.reduceOption)
          else none

end Field

/-- The fields and rules under which expressions are resolved. -/
structure Request where
  fields : FieldMap
  unknown : UnknownMembers := .matchNothing

/-- The leaf that a comparison stands for, `none` if it matches nothing.
`supports` tells which canonical operators the target can express. -/
def Request.resolve (request : Request) (target : String) (supports : Operator → Bool)
    (selector symbol : String) (arguments : List String) :
    Except FilterError (Option Leaf) :=
  match request.fields.find? selector with
  | none => .error (.unknownField selector)
  | some field =>
      match Operator.ofSymbol? symbol with
      | none => .error (.unknownOperator selector symbol)
      | some operator =>
          if !operator.isNullTest && !field.supports operator then
            .error (.operatorNotAllowed selector symbol)
          else if !supports operator.canonical then
            .error (.unsupportedOperator selector symbol target)
          else
            (field.test? selector operator request.unknown arguments).map
              (Option.map fun test => ⟨field.key, test⟩)

end FilterQuery
