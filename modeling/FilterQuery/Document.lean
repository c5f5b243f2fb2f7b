import FilterQuery.Predicate

namespace FilterQuery.Document

/-! Filters as query documents of a document store.  Keys are paths with dots,
and operators of the store start with a dollar sign. -/

/-- Values that plain JSON cannot tell from strings are marked. -/
def operand : Value → Json
  | .decimal value => .object [("$numberDecimal", .string value.text)]
  | .dateTime value => .object [("$date", .string value.text)]
  | value => value.toJson

/-- Characters with a meaning of their own in regular expressions. -/
def isPatternSpecial (c : Char) : Bool :=
  c ∈ "\\.+*?()|[]\x7b\x7d^$#&-~".toList

def escapePatternChars (literal : List Char) : List Char :=
  literal.flatMap fun c => if isPatternSpecial c then ['\\', c] else [c]

/-- The regular expression that is found where the literal is at the position. -/
def pattern (literal : String) (position : Position) : String :=
  let escaped := String.ofList (escapePatternChars literal.toList)
  match position with
  | .start => "^" ++ escaped
  | .finish => escaped ++ "$"
  | .anywhere => escaped

def comparisonName : Comparator → String
  | .equal => "$eq"
  | .notEqual => "$ne"
  | .greater => "$gt"
  | .atLeast => "$gte"
  | .less => "$lt"
  | .atMost => "$lte"

/-- One operator applied to the value of a key. -/
def clause (key operator : String) (operand : Json) : Json :=
  .object [(key, .object [(operator, operand)])]

/-- A value that is missing counts as null. -/
def filter (leaf : Leaf) : Json :=
  match leaf.test with
  | .compare comparator value => clause leaf.key (comparisonName comparator) (operand value)
  | .oneOf values => clause leaf.key "$in" (.array (values.map operand))
  | .noneOf values => clause leaf.key "$nin" (.array (values.map operand))
  | .occurs position literal => clause leaf.key "$regex" (.string (pattern literal position))
  | .isNull =>
      .object [("$or", .array
        [clause leaf.key "$eq" .null, clause leaf.key "$exists" (.bool false)])]
  | .notNull =>
      .object [("$and", .array
        [clause leaf.key "$ne" .null, clause leaf.key "$exists" (.bool true)])]

def all : List Json → Json
  | [] => .object []
  | filters => .object [("$and", .array filters)]

/-- The store refuses an empty disjunction; to negate the filter that matches
everything matches nothing. -/
def any : List Json → Json
  | [] => .object [("$nor", .array [.object []])]
  | filters => .object [("$or", .array filters)]

def target : Target Json where
  name := "document"
  all := all
  any := any
  leaf := filter

end FilterQuery.Document
