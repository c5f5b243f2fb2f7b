namespace FilterQuery.Binary64

/-! The shortest decimal digits of a floating-point number: of all decimals that
round to the number, those with the fewest digits, and of these the nearest. -/

/-- The number `0.d₁d₂… * 10 ^ point` with the given digits. -/
structure Digits where
  digits : List Char
  point : Int
deriving DecidableEq, Repr

/-- A positive number and the interval of reals that round to it, as numerators
over one denominator.  The ends belong to the interval when `closed` holds. -/
structure Rounding where
  low : Nat
  value : Nat
  high : Nat
  denominator : Nat
  closed : Bool

/-- The positive number with the given mantissa and exponent of two.  Just above
a power of two the lower neighbour is only half as far away. -/
def Rounding.ofScaled (mantissa : Nat) (exponent : Int) (narrow : Bool) : Rounding :=
  let up := Nat.pow 2 (exponent - 2).toNat
  { low := (4 * mantissa - if narrow then 1 else 2) * up
    value := 4 * mantissa * up
    high := (4 * mantissa + 2) * up
    denominator := Nat.pow 2 (2 - exponent).toNat
    closed := mantissa % 2 == 0 }

/-- The mantissa and exponent of two behind the bits of a finite number. -/
def Rounding.ofBits (bits : Nat) : Rounding :=
  let fraction := bits % Nat.pow 2 52
  let biased := bits / Nat.pow 2 52 % Nat.pow 2 11
  if biased = 0 then
    ofScaled fraction (-1074) false
  else
    ofScaled (Nat.pow 2 52 + fraction) ((biased : Int) - 1075) (fraction == 0 && biased != 1)

/-- The exponent of ten of the leading digit. -/
def Rounding.magnitude (rounding : Rounding) : Int :=
  let scaled := rounding.value * Nat.pow 10 400 / rounding.denominator
  ((Nat.toDigits 10 scaled).length : Int) - 401

/-- Which of two decimals is taken when both are equally near. -/
inductive Tie where
  | up
  | even
deriving DecidableEq, Repr

/-- The nearer of the two multiples of `10 ^ grid` around the number, if any of
them rounds to it. -/
def Rounding.onGrid? (tie : Tie) (rounding : Rounding) (grid : Int) : Option Nat :=
  let up := Nat.pow 10 (-grid).toNat
  let step := rounding.denominator * Nat.pow 10 grid.toNat
  let rounds (multiple : Nat) : Bool :=
    let point := multiple * step
    if rounding.closed then
      rounding.low * up ≤ point && point ≤ rounding.high * up
    else
      rounding.low * up < point && point < rounding.high * up
  let below := rounding.value * up / step
  let above := below + 1
  let middle := (below + above) * step
  let nearer :=
    if 2 * (rounding.value * up) < middle then below
    else if 2 * (rounding.value * up) = middle && tie = .even && below % 2 = 0 then below
    else above
  let farther := if nearer = below then above else below
  if rounds nearer then some nearer
  else if rounds farther then some farther
  else none

/-- Digits without the zeros at their end, at the given grid. -/
def Digits.ofMultiple (multiple : Nat) (grid : Int) : Digits :=
  let written := Nat.toDigits 10 multiple
  { digits := (written.reverse.dropWhile (· == '0')).reverse
    point := grid + written.length }

/-- Seventeen digits always suffice. -/
def Rounding.shortest (tie : Tie) (rounding : Rounding) : Digits :=
  let magnitude := rounding.magnitude
  let found := (List.range 17).findSome? fun (index : Nat) =>
    let grid := magnitude - (index : Int)
    (rounding.onGrid? tie grid).map fun multiple => Digits.ofMultiple multiple grid
  found.getD ⟨[], 0⟩

/-- The digits of the magnitude of a finite number; zero has none. -/
def shortest (tie : Tie) (number : Float) : Digits :=
  let bits := number.toBits.toNat % Nat.pow 2 63
  if bits = 0 then ⟨[], 0⟩ else (Rounding.ofBits bits).shortest tie

def isNegative (number : Float) : Bool :=
  Nat.pow 2 63 ≤ number.toBits.toNat

/-- The digits before and behind the point in positional notation, the first of
which is never empty. -/
def Digits.positional (shortest : Digits) : List Char × List Char :=
  let zeros (count : Int) := List.replicate count.toNat '0'
  let whole := shortest.digits.take shortest.point.toNat ++
    zeros (shortest.point - shortest.digits.length)
  let fraction := zeros (-shortest.point) ++ shortest.digits.drop shortest.point.toNat
  (if whole = [] then ['0'] else whole, if shortest.digits = [] then [] else fraction)

/-- Positional notation without an exponent, and without a point where the
number is whole.  The sign of zero is kept, and ties go up. -/
def plainChars (number : Float) : List Char :=
  if number.isNaN then "NaN".toList
  else
    let sign := if isNegative number then ['-'] else []
    if number.isInf then sign ++ "inf".toList
    else
      let (whole, fraction) := (shortest .up number).positional
      sign ++ whole ++ if fraction = [] then [] else '.' :: fraction

end FilterQuery.Binary64
