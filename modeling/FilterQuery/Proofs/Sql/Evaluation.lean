import FilterQuery.Proofs.Predicates
import FilterQuery.Proofs.Sql.Grammar
import FilterQuery.Sql.Backend
import Mathlib.Data.List.Infix

namespace FilterQuery.Sql

/-! How databases evaluate conditions for a row: with three truth values, since null
compares with nothing.  What a database refuses to evaluate has no truth value.  What its
functions answer is for the database to say. -/

inductive Truth where
  | holds
  | fails
  | unknown
deriving DecidableEq

namespace Truth

def ofBool : Bool → Truth
  | true => .holds
  | false => .fails

def negate : Truth → Truth
  | .holds => .fails
  | .fails => .holds
  | .unknown => .unknown

def and : Truth → Truth → Truth
  | .fails, _ | _, .fails => .fails
  | .holds, .holds => .holds
  | _, _ => .unknown

def or : Truth → Truth → Truth
  | .holds, _ | _, .holds => .holds
  | .fails, .fails => .fails
  | _, _ => .unknown

def all (truths : List Truth) : Truth :=
  truths.foldr and .holds

def any (truths : List Truth) : Truth :=
  truths.foldr or .fails

@[simp]
theorem ofBool_eq_holds (value : Bool) : ofBool value = .holds ↔ value = true := by
  cases value <;> simp [ofBool]

@[simp]
theorem ofBool_eq_fails (value : Bool) : ofBool value = .fails ↔ value = false := by
  cases value <;> simp [ofBool]

@[simp]
theorem negate_eq_holds (truth : Truth) : truth.negate = .holds ↔ truth = .fails := by
  cases truth <;> simp [negate]

theorem all_eq_holds (truths : List Truth) : all truths = .holds ↔ ∀ truth ∈ truths, truth = .holds := by
  induction truths with
  | nil => simp [all]
  | cons truth truths inductionHypothesis =>
      have both : ∀ first second : Truth, first.and second = .holds ↔
          first = .holds ∧ second = .holds := by
        intro first second
        cases first <;> cases second <;> simp [and]
      rw [List.forall_mem_cons, ← inductionHypothesis]
      exact both truth (all truths)

theorem any_eq_holds (truths : List Truth) : any truths = .holds ↔ ∃ truth ∈ truths, truth = .holds := by
  induction truths with
  | nil => simp [any]
  | cons truth truths inductionHypothesis =>
      have either : ∀ first second : Truth, first.or second = .holds ↔
          first = .holds ∨ second = .holds := by
        intro first second
        cases first <;> cases second <;> simp [or]
      simp only [List.mem_cons, exists_eq_or_imp, ← inductionHypothesis]
      exact either truth (any truths)

theorem any_eq_fails (truths : List Truth) : any truths = .fails ↔ ∀ truth ∈ truths, truth = .fails := by
  induction truths with
  | nil => simp [any]
  | cons truth truths inductionHypothesis =>
      have both : ∀ first second : Truth, first.or second = .fails ↔
          first = .fails ∧ second = .fails := by
        intro first second
        cases first <;> cases second <;> simp [or]
      rw [List.forall_mem_cons, ← inductionHypothesis]
      exact both truth (any truths)

end Truth

/-- What scalars evaluate to: values of the row or bound ones, and the numbers that
statements write and count with. -/
inductive Datum where
  | value (value : Value)
  | count (number : Int)
deriving DecidableEq

namespace Datum

def null : Datum := .value .null

def isNull (datum : Datum) : Bool :=
  datum = null

def compare? : Datum → Datum → Option (Option Ordering)
  | .value first, .value second =>
      if first = .null || second = .null then some none else (first.compare? second).map some
  | .count first, .count second => some (some (Ord.compare first second))
  | .value .null, .count _ | .count _, .value .null => some none
  | _, _ => none

def relates? (comparator : Comparator) (first second : Datum) : Option Truth :=
  (first.compare? second).map fun
    | none => .unknown
    | some order => .ofBool (comparator.accepts order)

def negate? : Datum → Option Datum
  | .count number => some (.count (-number))
  | .value .null => some null
  | _ => none

end Datum

/-- What functions answer to their arguments; `none` where they refuse them. -/
abbrev Calls := Function → List Datum → Option Datum

inductive PatternItem where
  | exactly (c : Char)
  | one
  | many
deriving DecidableEq

namespace PatternItem

def ofChar (c : Char) : PatternItem :=
  if c = '%' then .many else if c = '_' then .one else .exactly c

/-- The escape character must have a character behind it. -/
def read? (escape : Char) : List Char → Option (List PatternItem)
  | [] => some []
  | c :: pattern =>
      if c = escape then
        match pattern with
        | [] => none
        | literal :: pattern => (read? escape pattern).map (.exactly literal :: ·)
      else (read? escape pattern).map (ofChar c :: ·)

def accept (same : Char → Char → Bool) : List PatternItem → List Char → Bool
  | [], text => text.isEmpty
  | .exactly _ :: _, [] => false
  | .exactly c :: items, other :: text => same c other && accept same items text
  | .one :: _, [] => false
  | .one :: items, _ :: text => accept same items text
  | .many :: items, text => text.tails.any (accept same items)

end PatternItem

/-- Whether `LIKE` takes two characters for the same: SQLite disregards the case of
the letters of ASCII. -/
def Backend.sameInPattern : Backend → Char → Char → Bool
  | .postgres, first, second => first = second
  | .sqlite, first, second => first.toLower = second.toLower

def Backend.like? (backend : Backend) (escape : List Char) (subject pattern : Datum) :
    Option Truth :=
  match escape, subject, pattern with
  | [escape], .value (.string text), .value (.string pattern) =>
      (PatternItem.read? escape pattern.toList).map fun items =>
        .ofBool (PatternItem.accept backend.sameInPattern items text.toList)
  | _, _, _ => if subject.isNull || pattern.isNull then some .unknown else none

def sequence? {α : Type} (results : List (Option α)) : Option (List α) :=
  results.mapM id

section Rows

variable (backend : Backend) (call? : Calls) (row : List (List Char) → Value)

def Scalar.datum? : Scalar → Option Datum
  | .column names => some (.value (row names))
  | .bound value => some (.value value)
  | .number value => some (.count value)
  | .negative operand => operand.datum?.bind Datum.negate?
  | .call function arguments =>
      (sequence? (arguments.map fun argument => argument.datum?)).bind (call? function)

def Predicate.truth? : Predicate → Option Truth
  | .compare comparator left right => do
      (← left.datum? call? row).relates? comparator (← right.datum? call? row)
  | .like subject pattern escape => do
      backend.like? escape (← subject.datum? call? row) (← pattern.datum? call? row)
  | .elementOf negated subject choices => do
      let subject ← subject.datum? call? row
      let choices ← sequence? (choices.map (Scalar.datum? call? row))
      let equal ← sequence? (choices.map (subject.relates? .equal))
      some (if negated then (Truth.any equal).negate else .any equal)
  | .isNull negated subject => do
      some (.ofBool ((← subject.datum? call? row).isNull != negated))

def Condition.truth? : Condition → Option Truth
  | .predicate inner => inner.truth? backend call? row
  | .all conditions =>
      (sequence? (conditions.map fun condition => condition.truth?)).map Truth.all
  | .any conditions =>
      (sequence? (conditions.map fun condition => condition.truth?)).map Truth.any

end Rows

end FilterQuery.Sql
