import FilterQuery.Text.Basic
import FilterQuery.Text.Quoted

namespace FilterQuery

/-! Decimal numbers of any size.  The number of places written in a literal is
kept, so `1.50` and `1.5` are different numbers of the same magnitude. -/

/-- The number `mantissa * 10 ^ (-scale)`. -/
structure Decimal where
  mantissa : Int
  scale : Nat
deriving DecidableEq, Repr

/-- Why a literal is not a decimal number; the literal is quoted without the
blanks around it. -/
inductive DecimalError where
  | empty
  | invalidDigits (literal : String)
  | exponentOutOfRange (literal : String)
deriving DecidableEq, Repr

def DecimalError.message : DecimalError → String
  | .empty => "decimal literal is empty"
  | .invalidDigits literal => "invalid decimal digits in " ++ Text.quoted literal
  | .exponentOutOfRange literal => "decimal exponent out of range in " ++ Text.quoted literal

namespace Decimal

/-- The greatest magnitude of a written exponent. -/
def maxExponent : Nat := 4096

/-- Moves the point of `digits`, `places` of which stand behind it, to the right
by `exponent`.  A scale is never negative: zeros are appended instead. -/
def ofDigits (negative : Bool) (digits : Nat) (places : Nat) (exponent : Int) : Decimal :=
  let mantissa : Int := if negative then -(digits : Int) else digits
  let scale : Int := places - exponent
  if scale < 0 then
    ⟨mantissa * Nat.pow 10 scale.natAbs, 0⟩
  else
    ⟨mantissa, scale.toNat⟩

/-- A sign that may be missing, and what follows it. -/
def splitSign : List Char → Bool × List Char
  | '-' :: rest => (true, rest)
  | '+' :: rest => (false, rest)
  | rest => (false, rest)

/-- The digits before and behind a point that may be missing. -/
def splitPoint (text : List Char) : List Char × List Char :=
  (text.takeWhile (· ≠ '.'), (text.dropWhile (· ≠ '.')).drop 1)

/-- A number without an exponent part, multiplied by a power of ten. -/
def ofNumber? (number : List Char) (exponent : Int) : Option Decimal :=
  let (negative, unsigned) := splitSign number
  let (whole, fraction) := splitPoint unsigned
  (Text.natural? (whole ++ fraction)).map fun digits =>
    ofDigits negative digits fraction.length exponent

def isExponentMark (c : Char) : Bool :=
  c == 'e' || c == 'E'

/-- The exponent is read, and its range checked, before the digits are. -/
def ofTrimmed (literal : List Char) : Except DecimalError Decimal :=
  let invalid := DecimalError.invalidDigits (String.ofList literal)
  let number := literal.takeWhile fun c => !isExponentMark c
  match literal.dropWhile fun c => !isExponentMark c with
  | [] => (ofNumber? number 0).elim (.error invalid) .ok
  | _ :: exponentText =>
      match Text.integer64? exponentText with
      | none => .error invalid
      | some exponent =>
          if maxExponent < exponent.toInt.natAbs then
            .error (.exponentOutOfRange (String.ofList literal))
          else
            (ofNumber? number exponent.toInt).elim (.error invalid) .ok

/-- Reads a literal; blanks at both ends are ignored. -/
def parse (literal : String) : Except DecimalError Decimal :=
  match Text.trim literal.toList with
  | [] => .error .empty
  | trimmed => ofTrimmed trimmed

/-- The digits of the magnitude, with zeros in front until one digit is left
before the point. -/
def paddedDigits (number : Decimal) : List Char :=
  let digits := Nat.toDigits 10 number.mantissa.natAbs
  List.replicate (number.scale + 1 - digits.length) '0' ++ digits

/-- All places are written, and no point where there are none. -/
def toChars (number : Decimal) : List Char :=
  let digits := number.paddedDigits
  let whole := digits.length - number.scale
  let fraction := if number.scale = 0 then [] else '.' :: digits.drop whole
  (if number.mantissa < 0 then ['-'] else []) ++ digits.take whole ++ fraction

def text (number : Decimal) : String :=
  String.ofList number.toChars

end Decimal

end FilterQuery
