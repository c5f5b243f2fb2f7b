import FilterQuery.Text.LowerCase.Mapping
import FilterQuery.Text.LowerCase.Context

namespace FilterQuery.Text

/-! Lower-casing of whole texts, for every script.  One letter depends on its
surroundings: a capital sigma at the end of a word becomes the final sigma. -/

/-- The lower-case form of a character whose surroundings do not matter. -/
def lowerChar (c : Char) : List Char :=
  if c = 'İ' then
    ['i', Char.ofNat 0x0307]
  else
    match lowerCaseRuns.findSome? fun run => run.map? c.toNat with
    | some code => [Char.ofNat code]
    | none => [c]

/-- Whether the nearest character that is not passed over is cased. -/
def meetsCased (context : List Char) : Bool :=
  match context.dropWhile isCaseIgnorable with
  | nearest :: _ => isCased nearest
  | [] => false

/-- Lower-cases the rest of a text; `before` holds the characters in front of
it, the nearest one first. -/
def lowerCaseAfter (before : List Char) : List Char → List Char
  | [] => []
  | c :: after =>
      (if c = 'Σ' then
        if meetsCased before && !meetsCased after then ['ς'] else ['σ']
      else
        lowerChar c) ++ lowerCaseAfter (c :: before) after

def lowerCase (text : List Char) : List Char :=
  lowerCaseAfter [] text

def toLowerCase (text : String) : String :=
  String.ofList (lowerCase text.toList)

/-! ### Snake-case forms of attribute names -/

/-- Puts an underscore between an ASCII lower-case letter and an ASCII capital
that follows it directly. -/
def separateWords : List Char → List Char
  | first :: second :: rest =>
      if first.isLower && second.isUpper then
        first :: '_' :: separateWords (second :: rest)
      else
        first :: separateWords (second :: rest)
  | short => short

/-- Words are separated before the text is lower-cased: `createdAt` becomes
`created_at`, and a run of capitals stays one word. -/
def snakeCase (name : String) : String :=
  String.ofList (lowerCase (separateWords name.toList))

end FilterQuery.Text
