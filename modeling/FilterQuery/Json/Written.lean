import FilterQuery.Json.Basic

namespace FilterQuery.Json

/-! JSON as it is written.  A text may be well formed and still hold numbers out
of range or strings that are no text; what is skipped by a reader is not asked
to be more than well formed. -/

/-- The parts of a number; the fraction of a number without a point is empty. -/
structure Numeral where
  negative : Bool
  whole : List Char
  fraction : List Char
  exponent : Option Int
deriving DecidableEq, Repr

/-- A string is `none` when an escape in it is one half of a surrogate pair
without the other. -/
inductive Written where
  | null
  | bool (value : Bool)
  | number (numeral : Numeral)
  | string (text : Option String)
  | array (items : List Written)
  | object (members : List (Option String × Written))

namespace Numeral

/-- The greatest number that leading digits are gathered into. -/
def maxSignificand : Nat := Nat.pow 2 64 - 1

/-- Gathers digits as long as they fit, and counts those that are left. -/
def gather (significand : Nat) : List Char → Nat × Nat
  | [] => (significand, 0)
  | digit :: digits =>
      let next := 10 * significand + (digit.toNat - '0'.toNat)
      if next ≤ maxSignificand then gather next digits
      else (significand, digits.length + 1)

def powerOfTen (exponent : Nat) : Float :=
  Float.ofScientific 1 false exponent

/-- Fails where the product would be infinite. -/
def scaleUp? (value : Float) (exponent : Nat) : Option Float :=
  if exponent ≤ 308 then
    let scaled := value * powerOfTen exponent
    if scaled.isInf then none else some scaled
  else if value == 0.0 then some value
  else none

/-- Powers of ten that are out of range are divided out in steps. -/
def scaleDown (value : Float) (exponent : Nat) : Float :=
  if exponent ≤ 308 then value / powerOfTen exponent
  else if value == 0.0 then value
  else scaleDown (value / powerOfTen 308) (exponent - 308)
termination_by exponent
decreasing_by omega

/-- The leading digits times a power of ten, computed in floating point. -/
def toFloat? (numeral : Numeral) : Option Float :=
  let (whole, skipped) := gather 0 numeral.whole
  let (significand, ignored) := gather whole numeral.fraction
  let exponent := numeral.exponent.getD 0 + skipped - (numeral.fraction.length - ignored : Nat)
  let magnitude := significand.toUInt64.toFloat
  let scaled :=
    if 0 ≤ exponent then scaleUp? magnitude exponent.toNat
    else some (scaleDown magnitude exponent.natAbs)
  scaled.map fun value => if numeral.negative then -value else value

/-- A number without point and exponent is an integer if it fits 64 bits; the
sign of a negative zero is only kept by a floating-point number. -/
def toJson? (numeral : Numeral) : Option Json :=
  let magnitude := Nat.ofDigitChars 10 numeral.whole 0
  if numeral.fraction = [] && numeral.exponent.isNone &&
      (if numeral.negative then 0 < magnitude && magnitude ≤ Nat.pow 2 63
        else magnitude ≤ maxSignificand) then
    some (.integer (if numeral.negative then -magnitude else magnitude))
  else
    numeral.toFloat?.map .float

end Numeral

namespace Written

mutual

/-- The value that is written, if every number and string in it has one. -/
def toJson? : Written → Option Json
  | .null => some .null
  | .bool value => some (.bool value)
  | .number numeral => numeral.toJson?
  | .string text => text.map .string
  | .array items => (itemsToJson? items).map .array
  | .object members => (membersToJson? members).map .object

def itemsToJson? : List Written → Option (List Json)
  | [] => some []
  | item :: items => do
      let value ← item.toJson?
      let values ← itemsToJson? items
      some (value :: values)

def membersToJson? : List (Option String × Written) → Option (List (String × Json))
  | [] => some []
  | (key, item) :: members => do
      let name ← key
      let value ← item.toJson?
      let values ← membersToJson? members
      some ((name, value) :: values)

end

end Written

end FilterQuery.Json
