import FilterQuery.Enumeration
import FilterQuery.ValueKind

namespace FilterQuery

/-! Declarations of filterable attributes, before they are checked. -/

/-- The data type of an attribute. -/
inductive AttributeType where
  | i8 | i16 | i32 | i64
  | u8 | u16 | u32 | u64
  | f32 | f64
  | decimal
  | bool
  | date | time | dateTime | instant
  | string
  | enumeration (members : Enumeration)
  | other (name : String)
deriving DecidableEq

namespace AttributeType

/-- The types that are named by one word; enumerations and other types carry
more than their name. -/
def plainNames : List (String × AttributeType) :=
  [("i8", .i8), ("i16", .i16), ("i32", .i32), ("i64", .i64),
    ("u8", .u8), ("u16", .u16), ("u32", .u32), ("u64", .u64),
    ("f32", .f32), ("f64", .f64), ("decimal", .decimal), ("bool", .bool),
    ("date", .date), ("time", .time), ("date_time", .dateTime), ("instant", .instant),
    ("string", .string)]

def ofPlainName? (name : String) : Option AttributeType :=
  plainNames.lookup name

/-- The kind of an attribute whose declaration does not choose one. -/
def kind : AttributeType → ValueKind
  | .i8 | .i16 | .i32 | .i64 | .u8 | .u16 | .u32 | .u64 => .integer
  | .f32 | .f64 => .float
  | .decimal => .decimal
  | .bool => .boolean
  | .date | .time | .dateTime | .instant => .dateTime
  | .enumeration _ => .enumeration
  | .string | .other _ => .string

end AttributeType

/-- Names, keys and kinds that are `none` follow from the attribute.  An empty
list of operators stands for all that apply, and an empty list of groups for
all groups. -/
structure Declaration where
  attributeName : String
  attributeType : AttributeType
  description : String := ""
  name : Option String := none
  key : Option String := none
  kind : Option ValueKind := none
  operators : List Operator := []
  groups : List String := []
deriving DecidableEq

/-- The chosen kind, or else the one of the attribute's type. -/
def Declaration.valueKind (declaration : Declaration) : ValueKind :=
  declaration.kind.getD declaration.attributeType.kind

end FilterQuery
