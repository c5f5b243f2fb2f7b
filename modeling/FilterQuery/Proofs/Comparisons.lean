import FilterQuery.Proofs.Traversals
import FilterQuery.Resolution

namespace FilterQuery

/-! What a single comparison stands for once it is accepted: the field and the
operator that it names, and the values of its arguments. -/

namespace Field

/-- Whether a literal names no member of the enumeration. -/
def isUnresolved (field : Field) (literal : String) : Bool :=
  field.isEnumeration && (field.resolveMember? literal).isNone

def value? (field : Field) (literal : String) : Option Value :=
  if field.isEnumeration then (field.resolveMember? literal).map .string
  else readLiteral? field.kind literal

def values (field : Field) (literals : List String) : List Value :=
  literals.filterMap field.value?

/-- Whether a literal that names no member keeps the comparison from holding for
any value.  A list to choose from does without the literal, and null tests do
not look at literals at all. -/
def blocks (field : Field) (operator : Operator) (literals : List String) : Bool :=
  decide (operator ∉ [Operator.oneOf, .isNull, .notNull]) && literals.any field.isUnresolved

variable {field : Field} {unknown : UnknownMembers} {literal selector : String}
  {literals : List String}

theorem value?_eq_none (unresolved : field.isUnresolved literal = true) :
    field.value? literal = none := by
  obtain ⟨enumeration, unnamed⟩ := Bool.and_eq_true_iff.mp unresolved
  rw [value?, if_pos enumeration, Option.isNone_iff_eq_none.mp unnamed, Option.map_none]

theorem castArgument_eq_ok {result : Option Value}
    (cast : field.castArgument unknown literal = .ok result) :
    result = field.value? literal ∧ (result = none → field.isUnresolved literal = true) := by
  simp only [castArgument] at cast
  split at cast
  · rename_i enumeration
    have isEnumeration : field.isEnumeration = true := decide_eq_true enumeration
    cases named : field.resolveMember? literal with
    | some name =>
        simp only [named, Except.ok.injEq] at cast
        subst cast
        simp [value?, isEnumeration, named]
    | none =>
        cases unknown with
        | reject => simp [named] at cast
        | matchNothing =>
            simp only [named, Except.ok.injEq] at cast
            subst cast
            simp [value?, isUnresolved, isEnumeration, named]
  · rename_i plain
    have notEnumeration : field.isEnumeration = false := decide_eq_false plain
    cases read : readLiteral? field.kind literal with
    | none => simp [read] at cast
    | some value =>
        simp only [read, Except.ok.injEq] at cast
        subst cast
        simp [value?, notEnumeration, read]

theorem value?_isNone {result : Option Value}
    (cast : field.castArgument unknown literal = .ok result) :
    (field.value? literal).isNone = field.isUnresolved literal := by
  obtain ⟨same, unnamed⟩ := castArgument_eq_ok cast
  cases result with
  | none => rw [← same, unnamed rfl, Option.isNone_none]
  | some value =>
      cases unresolved : field.isUnresolved literal with
      | false => rw [← same, Option.isNone_some]
      | true =>
          rw [value?_eq_none unresolved] at same
          contradiction

theorem castArguments_eq_ok {results : List (Option Value)}
    (cast : field.castArguments unknown literals = .ok results) :
    results = literals.map field.value? ∧
      ∀ literal ∈ literals, (field.value? literal).isNone = field.isUnresolved literal := by
  obtain ⟨same, each⟩ := mapM_eq_map (fun literal _ result cast => (castArgument_eq_ok cast).1) cast
  exact ⟨same, fun literal member => value?_isNone (each literal member)⟩

end Field

namespace Operator

/-- The test that an operator makes of its operands.  Operators for one operand
look at the first. -/
def test (operator : Operator) (operands : List Value) : Test :=
  let operand := operands.headD .null
  match operator with
  | .equal => .compare .equal operand
  | .notEqual => .compare .notEqual operand
  | .greater | .greaterWord => .compare .greater operand
  | .atLeast | .atLeastWord => .compare .atLeast operand
  | .less | .lessWord => .compare .less operand
  | .atMost | .atMostWord => .compare .atMost operand
  | .oneOf => .oneOf operands
  | .noneOf => .noneOf operands
  | .isNull => .isNull
  | .notNull => .notNull
  | .startsWith => .occurs .start operand.text
  | .endsWith => .occurs .finish operand.text
  | .contains => .occurs .anywhere operand.text

variable {operator : Operator}

theorem test_of_nullTest {test : Test} (shape : operator.form = .nullTest test) :
    operator ∈ [Operator.isNull, .notNull] ∧ ∀ operands, operator.test operands = test := by
  cases operator <;> cases shape <;> exact ⟨by decide, fun _ => rfl⟩

theorem test_of_single {test : Value → Test} (shape : operator.form = .single test) :
    operator ∉ [Operator.oneOf, .isNull, .notNull] ∧
      ∀ operand, operator.test [operand] = test operand := by
  cases operator <;> cases shape <;> exact ⟨by decide, fun _ => rfl⟩

theorem test_of_list {test : List Value → Test} (shape : operator.form = .list test) :
    operator ∉ [Operator.isNull, .notNull] ∧ ∀ operands, operator.test operands = test operands := by
  cases operator <;> cases shape <;> exact ⟨by decide, fun _ => rfl⟩

end Operator

namespace Field

/-- What the checks of arguments leave through. -/
structure Accepts (field : Field) (operator : Operator) (literals : List String) : Prop where
  single : operator ∉ [Operator.oneOf, .noneOf, .isNull, .notNull] →
    ∃ literal, literals = [literal]
  nonempty : operator ∉ [Operator.isNull, .notNull] → literals ≠ []
  resolved : operator ∉ [Operator.isNull, .notNull] → ∀ literal ∈ literals,
    (field.value? literal).isNone = field.isUnresolved literal

variable {field : Field} {operator : Operator} {unknown : UnknownMembers}
  {selector : String} {literals : List String}

theorem blocks_eq_any (compares : operator ∉ [Operator.oneOf, .isNull, .notNull]) :
    field.blocks operator literals = literals.any field.isUnresolved := by
  rw [blocks, decide_eq_true compares, Bool.true_and]

theorem blocks_eq_false (free : operator ∈ [Operator.oneOf, .isNull, .notNull]) :
    field.blocks operator literals = false := by
  rw [blocks, decide_eq_false (not_not_intro free), Bool.false_and]

theorem reduceOption_map_value? : (literals.map field.value?).reduceOption = field.values literals := by
  change (literals.map field.value?).filterMap id = literals.filterMap field.value?
  rw [List.filterMap_map, Function.id_comp]

theorem values_singleton (literal : String) :
    field.values [literal] = (field.value? literal).toList := by
  cases value : field.value? literal <;> simp [values, value]

theorem Accepts.none_mem_iff (accepts : field.Accepts operator literals)
    (compares : operator ∉ [Operator.isNull, .notNull]) :
    none ∈ literals.map field.value? ↔ literals.any field.isUnresolved = true := by
  rw [List.mem_map, List.any_eq_true]
  refine exists_congr fun literal => and_congr_right fun member => ?_
  rw [← accepts.resolved compares literal member, Option.isNone_iff_eq_none]

theorem Accepts.value_exists (accepts : field.Accepts operator literals)
    (compares : operator ∉ [Operator.oneOf, .isNull, .notNull])
    (free : field.blocks operator literals = false) {literal : String}
    (member : literal ∈ literals) : ∃ value, field.value? literal = some value := by
  rw [blocks_eq_any compares, List.any_eq_false] at free
  have resolved := accepts.resolved (fun test => compares (List.mem_cons_of_mem _ test)) literal member
  rw [Bool.eq_false_iff.mpr (free literal member)] at resolved
  cases valued : field.value? literal with
  | none => simp [valued] at resolved
  | some value => exact ⟨value, rfl⟩

theorem Accepts.values_ne_nil (accepts : field.Accepts operator literals)
    (compares : operator ∉ [Operator.oneOf, .isNull, .notNull])
    (free : field.blocks operator literals = false) : field.values literals ≠ [] := by
  obtain ⟨literal, member⟩ := List.exists_mem_of_ne_nil literals
    (accepts.nonempty fun test => compares (List.mem_cons_of_mem _ test))
  obtain ⟨value, valued⟩ := accepts.value_exists compares free member
  exact List.ne_nil_of_mem (List.mem_filterMap.mpr ⟨literal, member, valued⟩)

theorem Accepts.values_eq_singleton (accepts : field.Accepts operator literals)
    (single : operator ∉ [Operator.oneOf, .noneOf, .isNull, .notNull])
    (free : field.blocks operator literals = false) : ∃ value, field.values literals = [value] := by
  obtain ⟨literal, rfl⟩ := accepts.single single
  obtain ⟨value, valued⟩ := accepts.value_exists
    (fun test => single (by simp_all)) free List.mem_cons_self
  exact ⟨value, by rw [values_singleton, valued, Option.toList_some]⟩

def madeTest (field : Field) (operator : Operator) (literals : List String) : Option Test :=
  if field.blocks operator literals then none else some (operator.test (field.values literals))

theorem test?_single {test : Value → Test} {literal : String} {result : Option Test}
    (shape : operator.form = .single test)
    (made : (field.castArgument unknown literal).map (Option.map test) = .ok result) :
    field.Accepts operator [literal] ∧ result = field.madeTest operator [literal] := by
  obtain ⟨compares, same⟩ := Operator.test_of_single shape
  cases cast : field.castArgument unknown literal with
  | error error => simp [cast, Except.map] at made
  | ok value =>
      simp only [cast, Except.map, Except.ok.injEq] at made
      subst made
      have isNone := value?_isNone cast
      obtain ⟨valued, _⟩ := castArgument_eq_ok cast
      refine ⟨⟨fun _ => ⟨literal, rfl⟩, fun _ => List.cons_ne_nil _ _,
        fun _ => by simpa using isNone⟩, ?_⟩
      rw [madeTest, blocks_eq_any compares, List.any_cons, List.any_nil, Bool.or_false, ← isNone,
        values_singleton, ← valued]
      cases value with
      | none => rfl
      | some value => simp [same]

theorem test?_list {test : List Value → Test} {results : List (Option Value)}
    (shape : operator.form = .list test) (nonempty : literals ≠ [])
    (cast : field.castArguments unknown literals = .ok results) :
    field.Accepts operator literals ∧
      (if operator = .oneOf || none ∉ results then some (test results.reduceOption) else none) =
        field.madeTest operator literals := by
  obtain ⟨compares, same⟩ := Operator.test_of_list shape
  obtain ⟨rfl, resolved⟩ := castArguments_eq_ok cast
  have listed : operator = .oneOf ∨ operator = .noneOf := by
    cases operator <;> first | contradiction | simp
  have accepts : field.Accepts operator literals := by
    refine ⟨fun single => ?_, fun _ => nonempty, fun _ => resolved⟩
    rcases listed with rfl | rfl <;> simp at single
  refine ⟨accepts, ?_⟩
  rw [madeTest, reduceOption_map_value?, same]
  rcases listed with rfl | rfl
  · rw [blocks_eq_false (by decide)]
    rfl
  · rw [blocks_eq_any (by decide)]
    by_cases unresolved : literals.any field.isUnresolved = true
    · simp [(accepts.none_mem_iff compares).mpr unresolved, unresolved]
    · simp [mt (accepts.none_mem_iff compares).mp unresolved, unresolved]

theorem test?_eq_ok {result : Option Test}
    (made : field.test? selector operator unknown literals = .ok result) :
    field.Accepts operator literals ∧ result = field.madeTest operator literals := by
  unfold test? at made
  cases shape : operator.form with
  | nullTest test =>
      obtain ⟨member, same⟩ := Operator.test_of_nullTest shape
      simp only [shape, Except.ok.injEq] at made
      have free : operator ∈ [Operator.oneOf, .isNull, .notNull] := List.mem_cons_of_mem _ member
      refine ⟨⟨fun single => absurd ?_ single, fun compares => absurd member compares,
        fun compares => absurd member compares⟩, ?_⟩
      · exact List.mem_cons_of_mem _ (List.mem_cons_of_mem _ member)
      · rw [← made, madeTest, blocks_eq_false free, same]
        rfl
  | single test =>
      simp only [shape] at made
      split at made
      · exact test?_single shape made
      · contradiction
  | list test =>
      simp only [shape] at made
      split at made
      · contradiction
      · rename_i nonempty
        cases cast : field.castArguments unknown literals with
        | error error => simp [cast, Except.map] at made
        | ok results =>
            simp only [cast, Except.map, Except.ok.injEq] at made
            rw [← made]
            exact test?_list shape nonempty cast

end Field

/-- A comparison that resolves names a field of the request and an operator that
applies to it, and its test follows from them and the arguments. -/
theorem Request.resolve_eq_ok {request : Request} {target selector symbol : String}
    {supports : Operator → Bool} {arguments : List String} {result : Option Leaf}
    (resolved : request.resolve target supports selector symbol arguments = .ok result) :
    ∃ field operator, request.fields.find? selector = some field ∧
      Operator.ofSymbol? symbol = some operator ∧
      (operator ∈ [Operator.isNull, .notNull] ∨ field.supports operator = true) ∧
      field.Accepts operator arguments ∧
      result = (field.madeTest operator arguments).map fun test => ⟨field.key, test⟩ := by
  unfold resolve at resolved
  cases found : request.fields.find? selector with
  | none => simp [found] at resolved
  | some field =>
      cases named : Operator.ofSymbol? symbol with
      | none => simp [found, named] at resolved
      | some operator =>
          simp only [found, named] at resolved
          split at resolved
          · contradiction
          · rename_i allowed
            split at resolved
            · contradiction
            · cases made : field.test? selector operator request.unknown arguments with
              | error error => simp [made, Except.map] at resolved
              | ok test =>
                  simp only [made, Except.map, Except.ok.injEq] at resolved
                  obtain ⟨accepts, same⟩ := Field.test?_eq_ok made
                  refine ⟨field, operator, rfl, rfl, ?_, accepts, by rw [← resolved, same]⟩
                  cases operator <;> simp_all [Operator.isNullTest]

end FilterQuery
