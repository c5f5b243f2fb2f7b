namespace FilterQuery.Binary64

/-! Floating-point literals: decimal digits with an optional point and exponent,
or the name of an infinity or of no number at all. -/

/-- The number `digits * 10 ^ exponent`, rounded to the nearest value.
Exponents far outside the range are settled without computing the power. -/
def ofDecimal (digits : Nat) (exponent : Int) : Float :=
  let magnitude := exponent + (Nat.toDigits 10 digits).length
  if digits = 0 || magnitude < -330 then 0.0
  else if magnitude > 310 then 1.0 / 0.0
  else Float.ofScientific digits (exponent < 0) exponent.natAbs

/-- An exponent part, or nothing at all. -/
def exponent? : List Char → Option Int
  | [] => some 0
  | mark :: rest =>
      if mark == 'e' || mark == 'E' then
        let (negative, digits) : Bool × List Char :=
          match rest with
          | '-' :: digits => (true, digits)
          | '+' :: digits => (false, digits)
          | digits => (false, digits)
        if digits ≠ [] && digits.all Char.isDigit then
          let value : Int := Nat.ofDigitChars 10 digits 0
          some (if negative then -value else value)
        else
          none
      else
        none

/-- Digits before and behind a point; one side may be empty, and the point is
missing or followed by the exponent part. -/
def unsigned? (text : List Char) : Option Float :=
  let whole := text.takeWhile Char.isDigit
  let (fraction, rest) : List Char × List Char :=
    match text.dropWhile Char.isDigit with
    | '.' :: rest => (rest.takeWhile Char.isDigit, rest.dropWhile Char.isDigit)
    | rest => ([], rest)
  if whole = [] && fraction = [] then
    none
  else
    (exponent? rest).map fun exponent =>
      ofDecimal (Nat.ofDigitChars 10 (whole ++ fraction) 0) (exponent - fraction.length)

/-- The names are recognised whatever the case of their letters. -/
def named? (text : List Char) : Option Float :=
  let name := text.map Char.toLower
  if name = "inf".toList || name = "infinity".toList then some (1.0 / 0.0)
  else if name = "nan".toList then some (0.0 / 0.0)
  else none

def magnitude? (text : List Char) : Option Float :=
  (named? text).or (unsigned? text)

/-- A sign may stand in front of everything else. -/
def parse? (literal : String) : Option Float :=
  match literal.toList with
  | '-' :: text => (magnitude? text).map fun value => -value
  | '+' :: text => magnitude? text
  | text => magnitude? text

/-- Only finite numbers are values that a field can be compared with. -/
def finite? (literal : String) : Option Float :=
  (parse? literal).filter Float.isFinite

end FilterQuery.Binary64
