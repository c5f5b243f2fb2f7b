import FilterQuery.Operator

namespace FilterQuery

/-! Kinds of values, and the operators that apply to each kind. -/

inductive ValueKind where
  | integer
  | float
  | decimal
  | string
  | boolean
  | dateTime
  | enumeration
deriving DecidableEq, Repr

namespace ValueKind

def all : List ValueKind :=
  [.integer, .float, .decimal, .string, .boolean, .dateTime, .enumeration]

def name : ValueKind → String
  | .integer => "integer"
  | .float => "float"
  | .decimal => "decimal"
  | .string => "string"
  | .boolean => "boolean"
  | .dateTime => "date_time"
  | .enumeration => "enumeration"

def ofName? (name : String) : Option ValueKind :=
  all.find? fun kind => kind.name = name

/-- Null tests apply to every field and are not part of this table.  Floating
values are never compared for equality, not even as part of an ordering. -/
def allows : ValueKind → Operator → Bool
  | _, .isNull | _, .notNull => false
  | .float, .equal | .float, .notEqual => false
  | _, .equal | _, .notEqual => true
  | .boolean, .oneOf | .boolean, .noneOf => false
  | _, .oneOf | _, .noneOf => true
  | kind, .startsWith | kind, .endsWith | kind, .contains => kind = .string
  | kind, .greater | kind, .greaterWord | kind, .less | kind, .lessWord =>
      kind = .integer || kind = .decimal || kind = .dateTime || kind = .float
  | kind, .atLeast | kind, .atLeastWord | kind, .atMost | kind, .atMostWord =>
      kind = .integer || kind = .decimal || kind = .dateTime

/-- The allowed operators, in listing order. -/
def operators (kind : ValueKind) : List Operator :=
  Operator.all.filter kind.allows

end ValueKind

end FilterQuery
