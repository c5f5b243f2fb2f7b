import FilterQuery.Text.Quoted
import FilterQuery.ValueKind

namespace FilterQuery

/-! Why declarations, field maps, expressions and commands are refused. -/

/-- What is wrong with a declaration. -/
inductive DeclarationFault where
  | noApplicableOperator (declared : List Operator) (kind : ValueKind)
  | notAnEnumeration
  | repeatedLabel (label : String)
deriving DecidableEq, Repr

inductive FilterError where
  | invalidDeclaration (field : String) (fault : DeclarationFault)
  | duplicateField (entity field : String)
  | unknownField (field : String)
  | unknownOperator (field symbol : String)
  | operatorNotAllowed (field symbol : String)
  | invalidArgument (field literal : String) (kind : ValueKind)
  | argumentCount (field : String) (operator : Operator) (count : Nat)
  | unsupportedOperator (field symbol target : String)
deriving DecidableEq, Repr

def DeclarationFault.message : DeclarationFault → String
  | .noApplicableOperator declared kind =>
      "none of the declared operators [" ++
        String.intercalate ", " (declared.map (·.symbol)) ++ "] apply to " ++ kind.name ++
        " values"
  | .notAnEnumeration => "enumeration value type requires an enumeration attribute"
  | .repeatedLabel label => "enumeration label '" ++ label ++ "' names more than one member"

/-- How many arguments an operator takes. -/
def Operator.expectedCount (operator : Operator) : String :=
  if operator.takesList then "at least 1" else "exactly 1"

namespace FilterError

def message : FilterError → String
  | .invalidDeclaration field fault =>
      "Invalid declaration for field " ++ field ++ ": " ++ fault.message
  | .duplicateField entity field =>
      "Duplicate filter name " ++ field ++ " for entity " ++ entity
  | .unknownField field => "Field " ++ field ++ " is not filterable"
  | .unknownOperator field symbol =>
      "Unknown operator " ++ symbol ++ " for field " ++ field
  | .operatorNotAllowed field symbol =>
      "Operator " ++ symbol ++ " is not allowed for field " ++ field
  | .invalidArgument field literal kind =>
      "Cannot cast " ++ Text.quoted literal ++ " to " ++ kind.name ++ " for field " ++ field
  | .argumentCount field operator count =>
      "Operator " ++ operator.symbol ++ " on field " ++ field ++ " expects " ++
        operator.expectedCount ++ " argument(s), got " ++ toString count
  | .unsupportedOperator field symbol target =>
      "Operator " ++ symbol ++ " on field " ++ field ++ " is not supported by " ++ target

/-- The stable name of the kind of error. -/
def code : FilterError → String
  | .invalidDeclaration .. => "INVALID_FILTER_DECLARATION"
  | .duplicateField .. => "DUPLICATE_FILTER_FIELD"
  | .unknownField .. => "UNKNOWN_FILTER_FIELD"
  | .unknownOperator .. => "UNKNOWN_FILTER_OPERATOR"
  | .operatorNotAllowed .. => "FILTER_OPERATOR_NOT_ALLOWED"
  | .invalidArgument .. => "INVALID_FILTER_ARGUMENT"
  | .argumentCount .. => "INVALID_FILTER_ARGUMENT_COUNT"
  | .unsupportedOperator .. => "UNSUPPORTED_FILTER_OPERATOR"

/-- Whether the expression is at fault, and not the declarations. -/
def isRequest : FilterError → Bool
  | .invalidDeclaration .. | .duplicateField .. => false
  | _ => true

end FilterError

/-- Why a command is not answered. -/
inductive Failure where
  | configurationNotFound (path : String)
  | configurationUnreadable (path reason : String)
  | configurationMalformed (path : String)
  | invalidDeclarations (entity : String) (cause : FilterError)
  | unknownEntity (entity : String)
  | malformedExpression
  | refused (cause : FilterError)
deriving DecidableEq, Repr

namespace Failure

def message : Failure → String
  | .configurationNotFound path => "Config file not found: " ++ path
  | .configurationUnreadable path _ => "Failed to read config file: " ++ path
  | .configurationMalformed path => "Failed to parse config file: " ++ path
  | .invalidDeclarations entity _ => "Invalid field declarations for entity '" ++ entity ++ "'"
  | .unknownEntity entity => "Unknown entity: " ++ entity
  | .malformedExpression => "Failed to parse expression tree"
  | .refused cause => cause.message ++ " [" ++ cause.code ++ "]"

/-- The error of a declaration that stands behind a failure. -/
def cause? : Failure → Option FilterError
  | .invalidDeclarations _ cause => some cause
  | _ => none

/-- The message and what stands behind it. -/
def report : Failure → String
  | .configurationUnreadable path reason =>
      (configurationUnreadable path reason).message ++ ": " ++ reason
  | .invalidDeclarations entity cause =>
      (invalidDeclarations entity cause).message ++ ": " ++ cause.message
  | failure => failure.message

end Failure

end FilterQuery
