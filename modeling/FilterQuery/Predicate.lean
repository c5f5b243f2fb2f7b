import FilterQuery.Operator
import FilterQuery.Value

namespace FilterQuery

/-! Predicates on single stored values, of which filters are made, and the targets that
filters are written for. -/

inductive Comparator where
  | equal
  | notEqual
  | greater
  | atLeast
  | less
  | atMost
deriving DecidableEq, Repr

/-- Where a literal occurs in a text. -/
inductive Position where
  | start
  | finish
  | anywhere
deriving DecidableEq, Repr

inductive Test where
  | compare (comparator : Comparator) (value : Value)
  | oneOf (values : List Value)
  | noneOf (values : List Value)
  | occurs (position : Position) (literal : String)
  | isNull
  | notNull
deriving DecidableEq

/-- A test of the value stored under a key. -/
structure Leaf where
  key : String
  test : Test
deriving DecidableEq

/-- What an operator makes of its arguments: nothing at all, a test against the
one value, or a test against a list. -/
inductive Operator.Form where
  | nullTest (test : Test)
  | single (test : Value → Test)
  | list (test : List Value → Test)

/-- Both symbols of an ordering comparison have one form. -/
def Operator.form : Operator → Operator.Form
  | .equal => .single (.compare .equal)
  | .notEqual => .single (.compare .notEqual)
  | .greater | .greaterWord => .single (.compare .greater)
  | .atLeast | .atLeastWord => .single (.compare .atLeast)
  | .less | .lessWord => .single (.compare .less)
  | .atMost | .atMostWord => .single (.compare .atMost)
  | .oneOf => .list .oneOf
  | .noneOf => .list .noneOf
  | .isNull => .nullTest .isNull
  | .notNull => .nullTest .notNull
  | .startsWith => .single fun value => .occurs .start value.text
  | .endsWith => .single fun value => .occurs .finish value.text
  | .contains => .single fun value => .occurs .anywhere value.text

/-- How filters are written: leaves, and conjunctions and disjunctions of any
number of filters.  `supports` is asked for canonical operators only. -/
structure Target (φ : Type) where
  name : String
  supports : Operator → Bool := fun _ => true
  all : List φ → φ
  any : List φ → φ
  leaf : Leaf → φ

end FilterQuery
