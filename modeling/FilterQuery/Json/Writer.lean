import FilterQuery.Binary64.Shortest
import FilterQuery.Json.Basic

namespace FilterQuery.Json

/-! The text of JSON values, either on one line without spaces or with every item
and member on a line of its own, indented by two spaces a level. -/

/-- Control characters and the two characters that end or escape a string are
escaped; everything else stands for itself. -/
def escapedChar (c : Char) : List Char :=
  if c = '"' then ['\\', '"']
  else if c = '\\' then ['\\', '\\']
  else if c = '\n' then ['\\', 'n']
  else if c = '\r' then ['\\', 'r']
  else if c = '\t' then ['\\', 't']
  else if c.toNat = 8 then ['\\', 'b']
  else if c.toNat = 12 then ['\\', 'f']
  else if c.toNat < 32 then
    ['\\', 'u', '0', '0', Nat.digitChar (c.toNat / 16), Nat.digitChar (c.toNat % 16)]
  else [c]

def stringChars (text : String) : List Char :=
  '"' :: text.toList.flatMap escapedChar ++ ['"']

def integerChars (value : Int) : List Char :=
  (if value < 0 then ['-'] else []) ++ Nat.toDigits 10 value.natAbs

/-- The sign is always written, and no zero in front of the digits. -/
def exponentChars (exponent : Int) : List Char :=
  'e' :: (if exponent < 0 then '-' else '+') :: Nat.toDigits 10 exponent.natAbs

/-- The fewest digits that read back, where ties go to the even one.  From
`0.00001` to below `10 ^ 16` the notation is positional, with a zero behind the
point of a whole number. -/
def floatChars (value : Float) : List Char :=
  let shortest := Binary64.shortest .even value
  let sign := if Binary64.isNegative value then ['-'] else []
  let exponent := shortest.point - 1
  if shortest.digits = [] || (-5 ≤ exponent && exponent ≤ 15) then
    let (whole, fraction) := shortest.positional
    sign ++ whole ++ '.' :: if fraction = [] then ['0'] else fraction
  else
    let fraction := shortest.digits.drop 1
    sign ++ shortest.digits.take 1 ++ (if fraction = [] then [] else '.' :: fraction) ++
      exponentChars exponent

/-- `none` stands for one line, `some level` for lines at that level. -/
abbrev Layout := Option Nat

def Layout.lineBreak : Layout → List Char
  | none => []
  | some level => '\n' :: List.replicate (2 * level) ' '

def Layout.inner (layout : Layout) : Layout :=
  layout.map (· + 1)

def Layout.colon : Layout → List Char
  | none => [':']
  | some _ => [':', ' ']

mutual

def chars (layout : Layout) : Json → List Char
  | .null => "null".toList
  | .bool value => if value then "true".toList else "false".toList
  | .integer value => integerChars value
  | .float value => floatChars value
  | .string value => stringChars value
  | .array [] => ['[', ']']
  | .array (item :: items) =>
      '[' :: layout.inner.lineBreak ++ item.chars layout.inner ++
        itemsChars layout.inner items ++ layout.lineBreak ++ [']']
  | .object [] => ['{', '}']
  | .object ((key, value) :: members) =>
      '{' :: layout.inner.lineBreak ++ stringChars key ++ layout.colon ++
        value.chars layout.inner ++ membersChars layout.inner members ++
        layout.lineBreak ++ ['}']

/-- The items behind the first. -/
def itemsChars (layout : Layout) : List Json → List Char
  | [] => []
  | item :: items =>
      ',' :: layout.lineBreak ++ item.chars layout ++ itemsChars layout items

/-- The members behind the first. -/
def membersChars (layout : Layout) : List (String × Json) → List Char
  | [] => []
  | (key, value) :: members =>
      ',' :: layout.lineBreak ++ stringChars key ++ layout.colon ++
        value.chars layout ++ membersChars layout members

end

/-- The text on one line. -/
def compact (value : Json) : String :=
  String.ofList (value.chars none)

/-- The text with indented lines. -/
def indented (value : Json) : String :=
  String.ofList (value.chars (some 0))

end FilterQuery.Json
