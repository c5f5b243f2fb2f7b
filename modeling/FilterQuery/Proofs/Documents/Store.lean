import FilterQuery.Document
import FilterQuery.Proofs.Predicates
import FilterQuery.Proofs.Timestamps

namespace FilterQuery.Document

/-! How a document store reads query documents, and which records it selects. -/

/-- What a record has under each path: null and other values, or nothing at all where
the path is missing. -/
abbrev Record := String → Option Value

/-- What is stored under a path, where a path that is missing is as good as null. -/
def Record.stored (record : Record) (path : String) : Value :=
  (record path).getD .null

/-- Values with a mark, which are written as objects with one member. -/
def marked? (mark text : String) : Option Value :=
  if mark = "$numberDecimal" then (Decimal.parse text).toOption.map .decimal
  else if mark = "$date" then (Calendar.Instant.ofWritten? text.toList).map .dateTime
  else none

/-- The value that an operand stands for. -/
def value? : Json → Option Value
  | .null => some .null
  | .bool value => some (.boolean value)
  | .integer value =>
      if (Int64.ofInt value).toInt = value then some (.integer (Int64.ofInt value)) else none
  | .float value => some (.float value)
  | .string text => some (.string text)
  | .object [(mark, .string text)] => marked? mark text
  | _ => none

/-- Operands are read as the values they were written for. -/
theorem value?_operand {value : Value} (finite : value.isFinite = true) :
    value? (operand value) = some value := by
  cases value with
  | null | boolean _ | string _ => rfl
  | integer number => simp [operand, Value.toJson, value?]
  | float number =>
      have written : operand (.float number) = .float number := if_pos finite
      rw [written, value?]
  | decimal number => simp [operand, value?, marked?, Decimal.parse_text, Except.toOption]
  | dateTime instant =>
      simp [operand, value?, marked?, Calendar.Instant.text, Calendar.Instant.ofWritten?_toChars]

def operands? : Json → Option (List Value)
  | .array items => items.mapM value?
  | _ => none

theorem operands?_array {values : List Value} (finite : ∀ value ∈ values, value.isFinite = true) :
    operands? (.array (values.map operand)) = some values := by
  rw [operands?]
  induction values with
  | nil => rfl
  | cons value values inductionHypothesis =>
      obtain ⟨first, rest⟩ := List.forall_mem_cons.mp finite
      simp [List.mapM_cons, value?_operand first, inductionHypothesis rest]

/-- Stores agree in everything but one point: whether a path that is missing is found
where null is looked for. -/
structure Store where
  nullFindsMissing : Bool

namespace Store

variable (store : Store)

/-- Whether what is stored equals an operand; values of another kind do not. -/
def finds : Option Value → Value → Bool
  | none, .null => store.nullFindsMissing
  | none, _ => false
  | some .null, .null => true
  | some stored, operand => stored.compare? operand == some .eq

/-- Whether a value is stored that is of the kind of the operand and stands in the
given order to it. -/
def orders (comparator : Comparator) (stored : Option Value) (operand : Value) : Bool :=
  (stored.bind (·.compare? operand)).any comparator.accepts

/-- Whether what is stored under a path passes an operator. -/
def passes? (stored : Option Value) (operator : String) (operand : Json) : Option Bool :=
  if operator = "$eq" then (value? operand).map (store.finds stored)
  else if operator = "$ne" then (value? operand).map fun value => !store.finds stored value
  else if operator = "$gt" then (value? operand).map (orders .greater stored)
  else if operator = "$gte" then (value? operand).map (orders .atLeast stored)
  else if operator = "$lt" then (value? operand).map (orders .less stored)
  else if operator = "$lte" then (value? operand).map (orders .atMost stored)
  else if operator = "$in" then (operands? operand).map (·.any (store.finds stored))
  else if operator = "$nin" then (operands? operand).map fun values => !values.any (store.finds stored)
  else if operator = "$exists" then
    match operand with
    | .bool wanted => some (stored.isSome == wanted)
    | _ => none
  else none

/-- A path is put to all operators that are listed for it. -/
def passesAll? (stored : Option Value) (operators : List (String × Json)) : Option Bool :=
  let answers? := operators.mapM fun (operator, operand) => store.passes? stored operator operand
  answers?.map fun answers => answers.all id

/-- Junctions of no filters at all are refused. -/
def junction? (name : String) (answers : List Bool) : Option Bool :=
  if answers = [] then none
  else if name = "$and" then some (answers.all id)
  else if name = "$or" then some (answers.any id)
  else if name = "$nor" then some (!answers.any id)
  else none

variable (record : Record)

mutual

/-- Whether a filter selects a record; `none` if the store refuses the filter. -/
def selects? : Json → Option Bool
  | .object members => fulfils? members
  | _ => none

/-- The members of a filter, which name junctions or paths, are to be fulfilled all. -/
def fulfils? : List (String × Json) → Option Bool
  | [] => some true
  | (name, .array filters) :: members => do
      let answers ← answers? filters
      let fulfilled ← junction? name answers
      let others ← fulfils? members
      some (fulfilled && others)
  | (path, .object operators) :: members => do
      let fulfilled ← store.passesAll? (record path) operators
      let others ← fulfils? members
      some (fulfilled && others)
  | _ :: _ => none

def answers? : List Json → Option (List Bool)
  | [] => some []
  | filter :: filters => do
      let answer ← selects? filter
      let answers ← answers? filters
      some (answer :: answers)

end

end Store

end FilterQuery.Document
