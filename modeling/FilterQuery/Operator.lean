namespace FilterQuery

/-! Comparison operators and their symbols.  The four ordering comparisons have
two symbols each, a sign and a word, which mean the same. -/

inductive Operator where
  | equal
  | notEqual
  | greater
  | greaterWord
  | atLeast
  | atLeastWord
  | less
  | lessWord
  | atMost
  | atMostWord
  | oneOf
  | noneOf
  | isNull
  | notNull
  | startsWith
  | endsWith
  | contains
deriving DecidableEq, Repr

namespace Operator

/-- Every operator, in the order in which sets of operators are listed. -/
def all : List Operator :=
  [.equal, .notEqual, .greater, .greaterWord, .atLeast, .atLeastWord, .less, .lessWord,
    .atMost, .atMostWord, .oneOf, .noneOf, .isNull, .notNull, .startsWith, .endsWith,
    .contains]

theorem mem_all (operator : Operator) : operator ∈ all := by
  cases operator <;> decide

def symbol : Operator → String
  | .equal => "=="
  | .notEqual => "!="
  | .greater => ">"
  | .greaterWord => "=gt="
  | .atLeast => ">="
  | .atLeastWord => "=ge="
  | .less => "<"
  | .lessWord => "=lt="
  | .atMost => "<="
  | .atMostWord => "=le="
  | .oneOf => "=in="
  | .noneOf => "=out="
  | .isNull => "=null="
  | .notNull => "=nonull="
  | .startsWith => "=prefix="
  | .endsWith => "=suffix="
  | .contains => "=contains="

/-- The operator with exactly this symbol. -/
def ofExactSymbol? (symbol : String) : Option Operator :=
  all.find? fun operator => operator.symbol = symbol

/-- The operator with this symbol, whatever the case of its ASCII letters. -/
def ofSymbol? (symbol : String) : Option Operator :=
  all.find? fun operator =>
    operator.symbol.toList.map Char.toLower = symbol.toList.map Char.toLower

/-- Whether common query grammars know the symbol without extensions. -/
def isNative : Operator → Bool
  | .isNull | .notNull | .startsWith | .endsWith | .contains => false
  | _ => true

def takesList : Operator → Bool
  | .oneOf | .noneOf => true
  | _ => false

/-- Whether the operator asks for the absence of a value instead of comparing. -/
def isNullTest : Operator → Bool
  | .isNull | .notNull => true
  | _ => false

/-- The sign for a word; every other operator is its own canonical form. -/
def canonical : Operator → Operator
  | .greaterWord => .greater
  | .atLeastWord => .atLeast
  | .lessWord => .less
  | .atMostWord => .atMost
  | operator => operator

/-- The word for the sign of an ordering comparison. -/
def word? : Operator → Option Operator
  | .greater => some .greaterWord
  | .atLeast => some .atLeastWord
  | .less => some .lessWord
  | .atMost => some .atMostWord
  | _ => none

/-- The set of the given operators, in listing order and without repetitions. -/
def listed (operators : List Operator) : List Operator :=
  all.filter (· ∈ operators)

/-- Adds the other symbol of every ordering comparison that is present. -/
def closeSpellings (operators : List Operator) : List Operator :=
  all.filter fun operator =>
    operators.any fun present => operator.canonical = present.canonical

end Operator

end FilterQuery
