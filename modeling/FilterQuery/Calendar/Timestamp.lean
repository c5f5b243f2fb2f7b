import FilterQuery.Calendar.Instant

namespace FilterQuery.Calendar

/-! Timestamps: the written form of instants.

Literals have four digits for the year and any offset of less than a day, the
fraction of a second may have any number of digits, of which nine count, and a
space or a small `t` may separate date and time.  What is written is always in
universal time, with the shortest exact fraction of none, three, six or nine
digits. -/

/-- Exactly `count` digits, and the rest of the text. -/
def digits? (count : Nat) (text : List Char) : Option (Nat × List Char) :=
  let digits := text.take count
  if digits.length = count && digits.all Char.isDigit then
    some (Nat.ofDigitChars 10 digits 0, text.drop count)
  else
    none

/-- One of the given characters, and the rest of the text. -/
def oneOf? (accepted : List Char) : List Char → Option (List Char)
  | c :: rest => if c ∈ accepted then some rest else none
  | [] => none

/-- A fraction of a second that may be missing, in nanoseconds. -/
def fraction? : List Char → Option (Nat × List Char)
  | '.' :: text =>
      let digits := (text.takeWhile Char.isDigit).take 9
      if digits = [] then
        none
      else
        some (Nat.ofDigitChars 10 digits 0 * Nat.pow 10 (9 - digits.length),
          text.dropWhile Char.isDigit)
  | text => some (0, text)

/-- Hours and minutes with a sign in front: a plus, a hyphen or a minus sign. -/
def signedOffset? (text : List Char) : Option Offset := do
  let sign ← text.head?
  let afterSign ← oneOf? ['+', '-', '−'] text
  let (hours, afterHours) ← digits? 2 afterSign
  let afterColon ← oneOf? [':'] afterHours
  let (minutes, rest) ← digits? 2 afterColon
  let magnitude := hours * 60 + minutes
  if valid : rest = [] ∧ minutes < 60 ∧ magnitude < 1440 then
    if sign = '+' then
      some ⟨magnitude, by omega, by omega⟩
    else
      some ⟨-magnitude, by omega, by omega⟩
  else
    none

def offset? : List Char → Option Offset
  | ['Z'] => some ⟨0, by decide, by decide⟩
  | ['z'] => some ⟨0, by decide, by decide⟩
  | text => signedOffset? text

/-- Reads what follows the year. -/
def Instant.afterYear? (year : Int) (text : List Char) : Option Instant := do
  let text ← oneOf? ['-'] text
  let (month, text) ← digits? 2 text
  let text ← oneOf? ['-'] text
  let (day, text) ← digits? 2 text
  let text ← oneOf? ['T', 't', ' '] text
  let (hour, text) ← digits? 2 text
  let text ← oneOf? [':'] text
  let (minute, text) ← digits? 2 text
  let text ← oneOf? [':'] text
  let (second, text) ← digits? 2 text
  let (nanosecond, text) ← fraction? text
  let offset ← offset? text
  let date ← Date.of? year month day
  let time ← TimeOfDay.of? hour minute second nanosecond
  some (Instant.ofLocal date time offset)

def Instant.ofChars? (text : List Char) : Option Instant := do
  let (year, text) ← digits? 4 text
  Instant.afterYear? year text

/-- Reads a literal. -/
def Instant.parse? (literal : String) : Option Instant :=
  Instant.ofChars? literal.toList

/-- At least `width` digits. -/
def padded (width value : Nat) : List Char :=
  let digits := Nat.toDigits 10 value
  List.replicate (width - digits.length) '0' ++ digits

/-- Years of other than four digits, and those before the year 0, have a sign. -/
def yearChars (year : Int) : List Char :=
  if year < 0 then '-' :: padded 4 year.natAbs
  else if 9999 < year then '+' :: padded 4 year.natAbs
  else padded 4 year.natAbs

def fractionChars (nanosecond : Nat) : List Char :=
  if nanosecond = 0 then []
  else if nanosecond % 1000000 = 0 then '.' :: padded 3 (nanosecond / 1000000)
  else if nanosecond % 1000 = 0 then '.' :: padded 6 (nanosecond / 1000)
  else '.' :: padded 9 nanosecond

def Instant.toChars (instant : Instant) : List Char :=
  yearChars instant.date.year ++ '-' :: padded 2 instant.date.month ++
    '-' :: padded 2 instant.date.day ++ 'T' :: padded 2 instant.time.hour ++
    ':' :: padded 2 instant.time.minute ++ ':' :: padded 2 instant.time.second ++
    fractionChars instant.time.nanosecond ++ ['Z']

def Instant.text (instant : Instant) : String :=
  String.ofList instant.toChars

end FilterQuery.Calendar
