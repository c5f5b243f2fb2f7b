import FilterQuery.Binary64.Shortest
import FilterQuery.Calendar.Timestamp
import FilterQuery.Decimal
import FilterQuery.Json.Basic

namespace FilterQuery

/-! Typed values, which filters compare fields with. -/

inductive Value where
  | null
  | integer (value : Int64)
  | float (value : Float)
  | decimal (value : Decimal)
  | boolean (value : Bool)
  | dateTime (value : Calendar.Instant)
  | string (value : String)
deriving DecidableEq

namespace Value

def isNull : Value → Bool
  | .null => true
  | _ => false

/-- The text of a string value; other values are not strings. -/
def asString? : Value → Option String
  | .string value => some value
  | _ => none

def text : Value → String
  | .null => "NULL"
  | .integer value => toString value.toInt
  | .float value => String.ofList (Binary64.plainChars value)
  | .decimal value => value.text
  | .boolean value => if value then "true" else "false"
  | .dateTime value => value.text
  | .string value => value

/-- Plain JSON has no decimals and timestamps: both are written as strings. -/
def toJson : Value → Json
  | .null => .null
  | .integer value => .integer value.toInt
  | .float value => Json.ofFloat value
  | .decimal value => .string value.text
  | .boolean value => .bool value
  | .dateTime value => .string value.text
  | .string value => .string value

end Value

end FilterQuery
