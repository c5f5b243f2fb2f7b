import FilterQuery.Json.Written

namespace FilterQuery.Json

/-! From text to JSON as it is written.  Every reader takes the text that is left
and returns what it read together with the rest. -/

def isSpace (c : Char) : Bool :=
  c == ' ' || c == '\n' || c == '\r' || c == '\t'

def skipSpace (text : List Char) : List Char :=
  text.dropWhile isSpace

/-- A point with digits behind it, or nothing. -/
def fraction? : List Char → Option (List Char × List Char)
  | '.' :: text =>
      let digits := text.takeWhile Char.isDigit
      if digits = [] then none else some (digits, text.dropWhile Char.isDigit)
  | text => some ([], text)

def exponentDigits? (negative : Bool) (text : List Char) : Option (Option Int × List Char) :=
  let digits := text.takeWhile Char.isDigit
  if digits = [] then
    none
  else
    let value : Int := Nat.ofDigitChars 10 digits 0
    some (some (if negative then -value else value), text.dropWhile Char.isDigit)

/-- An exponent mark with an optional sign and digits behind it, or nothing. -/
def exponent? : List Char → Option (Option Int × List Char)
  | mark :: text =>
      if mark = 'e' || mark = 'E' then
        match text with
        | '-' :: digits => exponentDigits? true digits
        | '+' :: digits => exponentDigits? false digits
        | digits => exponentDigits? false digits
      else
        some (none, mark :: text)
  | [] => some (none, [])

/-- Digits without a leading zero, unless the zero stands alone. -/
def magnitude? (negative : Bool) (text : List Char) : Option (Numeral × List Char) := do
  let whole := text.takeWhile Char.isDigit
  if whole = [] || (whole.head? = some '0' && 1 < whole.length) then
    none
  else
    let (fraction, text) ← fraction? (text.dropWhile Char.isDigit)
    let (exponent, text) ← exponent? text
    some (⟨negative, whole, fraction, exponent⟩, text)

def numeral? : List Char → Option (Numeral × List Char)
  | '-' :: text => magnitude? true text
  | text => magnitude? false text

def hexDigit? (c : Char) : Option Nat :=
  if c.isDigit then some (c.toNat - '0'.toNat)
  else if 'a' ≤ c && c ≤ 'f' then some (c.toNat - 'a'.toNat + 10)
  else if 'A' ≤ c && c ≤ 'F' then some (c.toNat - 'A'.toNat + 10)
  else none

/-- One element of a string: a character, or half of a surrogate pair. -/
inductive Piece where
  | char (c : Char)
  | surrogate (unit : Nat)
deriving DecidableEq, Repr

def Piece.ofUnit (unit : Nat) : Piece :=
  if 0xD800 ≤ unit && unit < 0xE000 then .surrogate unit else .char (Char.ofNat unit)

def unit? (a b c d : Char) : Option Nat := do
  let a ← hexDigit? a
  let b ← hexDigit? b
  let c ← hexDigit? c
  let d ← hexDigit? d
  some (((a * 16 + b) * 16 + c) * 16 + d)

/-- The character behind a backslash stands for another one. -/
def escape? (c : Char) : Option Char :=
  if c = '"' || c = '\\' || c = '/' then some c
  else if c = 'b' then some (Char.ofNat 8)
  else if c = 'f' then some (Char.ofNat 12)
  else if c = 'n' then some '\n'
  else if c = 'r' then some '\r'
  else if c = 't' then some '\t'
  else none

/-- The pieces up to the closing quote. -/
def pieces? : List Char → Option (List Piece × List Char)
  | [] => none
  | '"' :: text => some ([], text)
  | '\\' :: 'u' :: a :: b :: c :: d :: text => do
      let unit ← unit? a b c d
      let (pieces, rest) ← pieces? text
      some (.ofUnit unit :: pieces, rest)
  | '\\' :: mark :: text => do
      let c ← escape? mark
      let (pieces, rest) ← pieces? text
      some (.char c :: pieces, rest)
  | c :: text =>
      if c.toNat < 32 then
        none
      else do
        let (pieces, rest) ← pieces? text
        some (.char c :: pieces, rest)

/-- A high half with a low half behind it makes one character; no other half
does. -/
def joinPieces? : List Piece → Option (List Char)
  | [] => some []
  | .char c :: pieces => (joinPieces? pieces).map (c :: ·)
  | .surrogate high :: .surrogate low :: pieces =>
      if high < 0xDC00 && 0xDC00 ≤ low then
        (joinPieces? pieces).map
          (Char.ofNat (0x10000 + (high - 0xD800) * 0x400 + (low - 0xDC00)) :: ·)
      else
        none
  | .surrogate _ :: _ => none

/-- A string, read from behind its opening quote. -/
def string? (text : List Char) : Option (Option String × List Char) :=
  (pieces? text).map fun (pieces, rest) => ((joinPieces? pieces).map String.ofList, rest)

mutual

/-- A value with space in front of it.  The first argument bounds the number of
steps. -/
def value? : Nat → List Char → Option (Written × List Char)
  | 0, _ => none
  | steps + 1, text =>
      match skipSpace text with
      | 'n' :: 'u' :: 'l' :: 'l' :: rest => some (.null, rest)
      | 't' :: 'r' :: 'u' :: 'e' :: rest => some (.bool true, rest)
      | 'f' :: 'a' :: 'l' :: 's' :: 'e' :: rest => some (.bool false, rest)
      | '"' :: rest => (string? rest).map fun (text, rest) => (.string text, rest)
      | '[' :: rest =>
          match skipSpace rest with
          | ']' :: rest => some (.array [], rest)
          | rest => (items? steps rest).map fun (items, rest) => (.array items, rest)
      | '{' :: rest =>
          match skipSpace rest with
          | '}' :: rest => some (.object [], rest)
          | rest => (members? steps rest).map fun (members, rest) => (.object members, rest)
      | rest => (numeral? rest).map fun (numeral, rest) => (.number numeral, rest)

/-- One or more items and the closing bracket. -/
def items? : Nat → List Char → Option (List Written × List Char)
  | 0, _ => none
  | steps + 1, text => do
      let (item, rest) ← value? steps text
      match skipSpace rest with
      | ',' :: rest =>
          (items? steps rest).map fun (items, rest) => (item :: items, rest)
      | ']' :: rest => some ([item], rest)
      | _ => none

/-- One or more members and the closing brace. -/
def members? : Nat → List Char → Option (List (Option String × Written) × List Char)
  | 0, _ => none
  | steps + 1, text =>
      match skipSpace text with
      | '"' :: rest => do
          let (key, rest) ← string? rest
          match skipSpace rest with
          | ':' :: rest => do
              let (value, rest) ← value? steps rest
              match skipSpace rest with
              | ',' :: rest =>
                  (members? steps rest).map fun (members, rest) =>
                    ((key, value) :: members, rest)
              | '}' :: rest => some ([(key, value)], rest)
              | _ => none
          | _ => none
      | _ => none

end

/-- Enough steps for any text of the given length: a value behind an opening
bracket takes two. -/
def stepsFor (length : Nat) : Nat :=
  2 * length + 2

/-- Reads a whole text; nothing but space may follow the value. -/
def Written.parse? (text : String) : Option Written := do
  let (value, rest) ← value? (stepsFor text.length) text.toList
  if skipSpace rest = [] then some value else none

/-- The value of a text, unless it is nested too deeply. -/
def parse? (text : String) : Option Json := do
  let written ← Written.parse? text
  let value ← written.toJson?
  if value.depth ≤ maxDepth then some value else none

end FilterQuery.Json
