namespace FilterQuery

/-! JSON values.  Numbers are integers or floating-point numbers, and objects
keep their members in order. -/

inductive Json where
  | null
  | bool (value : Bool)
  | integer (value : Int)
  | float (value : Float)
  | string (value : String)
  | array (items : List Json)
  | object (members : List (String × Json))

namespace Json

/-- JSON has no notation for infinities and for what is not a number. -/
def ofFloat (value : Float) : Json :=
  if value.isFinite then .float value else .null

def ofStrings (values : List String) : Json :=
  .array (values.map .string)

mutual

/-- The number of arrays and objects around the innermost value. -/
def depth : Json → Nat
  | .array items => depthOfItems items + 1
  | .object members => depthOfMembers members + 1
  | _ => 0

def depthOfItems : List Json → Nat
  | [] => 0
  | item :: items => max item.depth (depthOfItems items)

def depthOfMembers : List (String × Json) → Nat
  | [] => 0
  | (_, value) :: members => max value.depth (depthOfMembers members)

end

/-- Deeper values are not read. -/
def maxDepth : Nat := 127

end Json

end FilterQuery
