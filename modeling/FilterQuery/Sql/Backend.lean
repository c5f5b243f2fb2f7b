import FilterQuery.Predicate
import FilterQuery.Sql.Fragment
import FilterQuery.Text.SnakeCase

namespace FilterQuery.Sql

/-! Filters as conditions of SQL.  Values are always bound and never part of the
text, and junctions stand in parentheses. -/

/-! ### Quoted identifiers -/

/-- A name in double quotes; a quote inside it is written twice. -/
def quoteName (name : List Char) : List Char :=
  '"' :: name.flatMap (fun c => if c = '"' then ['"', '"'] else [c]) ++ ['"']

def quoteKeyChars (key : List Char) : List Char :=
  ['.'].intercalate ((key.splitOn '.').map quoteName)

/-- The column that a storage key stands for: one quoted name for each part
between dots. -/
def quoteKey (key : String) : String :=
  String.ofList (quoteKeyChars key.toList)

/-! ### Patterns of `LIKE`

A backslash takes the meaning from the character behind it. -/

/-- Characters with a meaning of their own. -/
def isLikeSpecial (c : Char) : Bool :=
  c == '\\' || c == '%' || c == '_'

def escapeLikeChars (text : List Char) : List Char :=
  text.flatMap fun c => if isLikeSpecial c then ['\\', c] else [c]

/-- The pattern that matches this text and no other. -/
def escapeLike (text : String) : String :=
  String.ofList (escapeLikeChars text.toList)

/-- The pattern that matches texts with the literal at the position. -/
def likePattern (literal : String) : Position → String
  | .start => escapeLike literal ++ "%"
  | .finish => "%" ++ escapeLike literal
  | .anywhere => "%" ++ escapeLike literal ++ "%"

/-! ### Conditions -/

inductive Backend where
  | postgres
  | sqlite
deriving DecidableEq, Repr

namespace Backend

def name : Backend → String
  | .postgres => "postgres"
  | .sqlite => "sqlite"

/-- The backend with a name, whatever the case of its letters. -/
def ofName? (name : String) : Option Backend :=
  let lowered := Text.toLowerCase name
  if lowered = "sqlite" then some .sqlite
  else if lowered = "postgres" || lowered = "postgresql" then some .postgres
  else none

def unknownNameMessage (name : String) : String :=
  "unknown SQL backend '" ++ Text.toLowerCase name ++ "'"

def placeholder (backend : Backend) (number : Nat) : String :=
  match backend with
  | .postgres => "$" ++ toString number
  | .sqlite => "?"

/-- The condition that every row satisfies. -/
def always : String := "1=1"

/-- The condition that no row satisfies. -/
def never : String := "1=0"

/-- A literal at a position of a column, compared with regard to case; the
literal is not empty.  Where `LIKE` disregards case, parts of the column are
compared instead. -/
def occurrence (backend : Backend) (column : String) (position : Position)
    (literal : String) : Fragment :=
  let bound := Fragment.ofParameter (.string literal)
  match backend, position with
  | .postgres, position =>
      .ofText (column ++ " LIKE ") ++
        .ofParameter (.string (likePattern literal position)) ++ .ofText " ESCAPE '\\'"
  | .sqlite, .start =>
      .ofText ("substr(" ++ column ++ ", 1, length(") ++ bound ++ .ofText ")) = " ++ bound
  | .sqlite, .finish =>
      .ofText ("substr(" ++ column ++ ", -length(") ++ bound ++ .ofText ")) = " ++ bound
  | .sqlite, .anywhere =>
      .ofText ("instr(" ++ column ++ ", ") ++ bound ++ .ofText ") > 0"

def comparisonSign : Comparator → String
  | .equal => "="
  | .notEqual => "<>"
  | .greater => ">"
  | .atLeast => ">="
  | .less => "<"
  | .atMost => "<="

/-- Membership in a list; `whenEmpty` stands for membership in an empty one. -/
def membership (column keyword whenEmpty : String) (values : List Value) : Fragment :=
  if values = [] then
    .ofText whenEmpty
  else
    .ofText (column ++ " " ++ keyword ++ " (") ++
      .join ", " (values.map .ofParameter) ++ .ofText ")"

/-- An empty literal occurs in every text. -/
def condition (backend : Backend) (leaf : Leaf) : Fragment :=
  let column := quoteKey leaf.key
  match leaf.test with
  | .compare comparator value =>
      .ofText (column ++ " " ++ comparisonSign comparator ++ " ") ++ .ofParameter value
  | .oneOf values => membership column "IN" never values
  | .noneOf values => membership column "NOT IN" always values
  | .occurs position literal =>
      if literal = "" then .ofText (column ++ " IS NOT NULL")
      else backend.occurrence column position literal
  | .isNull => .ofText (column ++ " IS NULL")
  | .notNull => .ofText (column ++ " IS NOT NULL")

/-- Conditions joined by a word; `whenEmpty` stands for none at all. -/
def junction (word whenEmpty : String) (conditions : List Fragment) : Fragment :=
  match conditions with
  | [] => .ofText whenEmpty
  | conditions => .ofText "(" ++ .join (" " ++ word ++ " ") conditions ++ .ofText ")"

def target (backend : Backend) : Target Fragment where
  name := backend.name
  all := junction "AND" always
  any := junction "OR" never
  leaf := backend.condition

/-- The condition with the placeholders of the backend. -/
def render (backend : Backend) (condition : Fragment) : Statement :=
  condition.render backend.placeholder

end Backend

end FilterQuery.Sql
